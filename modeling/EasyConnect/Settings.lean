import EasyConnect.Collector
import EasyConnect.Value.Equality

namespace EasyConnect

/-! Settings from the environment.  The first load that succeeds is kept and answers every later
one until it is forgotten; a load that fails is not kept. -/

/-- A loaded configuration.  Two are the same object when one load made them, and then their
serial numbers agree. -/
structure Loaded where
  config : Config
  serial : Nat

def Loaded.equals (first second : Loaded) : Bool :=
  decide (first.serial = second.serial) ||
    Value.equalItems (first.config.durationBuckets.values.map .number)
      (second.config.durationBuckets.values.map .number)

structure Settings where
  assigned? : Option String
  kept? : Option Loaded
  loads : Nat

namespace Settings

inductive Request
  | assign (text : String)
  | unset
  | forget
  | load
  | collect

inductive Reply
  | done
  | unassignable
  | loaded (loaded : Loaded)
  | built (loaded : Loaded) (boundaries : Boundaries) (collector : Collector boundaries)
  | failed (error : ConfigError)

def initial : Settings where
  assigned? := none
  kept? := none
  loads := 0

def current (assigned? : Option String) : Except ConfigError Config :=
  match assigned? with
  | none => .ok Config.standard
  | some raw =>
      if raw.isEmpty then .ok Config.standard
      else
        match Boundaries.read raw with
        | .ok boundaries => Config.ofValues (boundaries.values.map .number)
        | .error error => .error error

def load (settings : Settings) : Settings × Reply :=
  match settings.kept? with
  | some loaded => (settings, .loaded loaded)
  | none =>
      match current settings.assigned? with
      | .error error => (settings, .failed error)
      | .ok config =>
          let loaded : Loaded := ⟨config, settings.loads⟩
          ({ settings with kept? := some loaded, loads := settings.loads + 1 }, .loaded loaded)

def collect (settings : Settings) : Settings × Reply :=
  match settings.load with
  | (next, .loaded loaded) =>
      match loaded.config.collector? with
      | .ok ⟨boundaries, collector⟩ => (next, .built loaded boundaries collector)
      | .error error => (next, .failed error)
  | other => other

/-- No environment holds a text with the null character. -/
def step (settings : Settings) : Request → Settings × Reply
  | .assign text =>
      if text.toList.contains '\x00' then (settings, .unassignable)
      else ({ settings with assigned? := some text }, .done)
  | .unset => ({ settings with assigned? := none }, .done)
  | .forget => ({ settings with kept? := none }, .done)
  | .load => settings.load
  | .collect => settings.collect

def run : Settings → List Request → Settings × List Reply
  | settings, [] => (settings, [])
  | settings, request :: later =>
      let first := settings.step request
      let rest := run first.1 later
      (rest.1, first.2 :: rest.2)

@[simp] theorem run_nil (settings : Settings) : settings.run [] = (settings, []) := rfl

@[simp] theorem run_cons
    (settings : Settings) (request : Request) (later : List Request) :
    settings.run (request :: later) =
      (((settings.step request).1.run later).1,
        (settings.step request).2 :: ((settings.step request).1.run later).2) := rfl

end Settings

end EasyConnect
