import OlapClient.Cache.Failure
import OlapClient.Number.Decimal
import OlapClient.Property.NameMap

namespace OlapClient.Cache

/-!
# Retention

* `Mode` — which entry a full partition gives up.
* `Retention` — how many entries a partition keeps, for how long, and its mode.
* `Retention.overlay` — the settings that cache properties change; a bad one is an error.
* `Retention.overlayLossy` — the same, but a bad property changes nothing.
-/

/-- Which entry a full partition gives up: the least recently used, the one with the fewest or the
most hits, or the one that was put first or last. -/
inductive Mode where
  | lru
  | lfu
  | mfu
  | fifo
  | lifo
deriving DecidableEq, Repr

/-- The name of a mode. -/
def Mode.name : Mode → String
  | .lru => "LRU"
  | .lfu => "LFU"
  | .mfu => "MFU"
  | .fifo => "FIFO"
  | .lifo => "LIFO"

/-- The mode of a name, in any case and with blanks around it. -/
def Mode.parse? (raw : String) : Option Mode :=
  let name := upperString (trim raw)
  [Mode.lru, .lfu, .mfu, .fifo, .lifo].find? fun mode => mode.name == name

/-- How many entries a partition keeps, for how many milliseconds, and its mode. Without a timeout
entries do not expire. -/
structure Retention where
  size : Nat
  timeout : Option Nat
  mode : Mode
deriving DecidableEq, Repr

/-- The property names that change retention. -/
inductive Setting where
  | size
  | timeout
  | mode
deriving DecidableEq, Repr

/-- The property of a setting. -/
def Setting.key : Setting → String
  | .size => "Size"
  | .timeout => "Timeout"
  | .mode => "Mode"

/-- The settings in the order in which they are read. -/
def Setting.all : List Setting :=
  [.size, .timeout, .mode]

namespace Retention

/-- Fifty entries for five minutes, giving up the least recently used. -/
def standard : Retention :=
  ⟨50, some 300000, .lru⟩

/-- The same for another number of entries, at least one. -/
def withSize (r : Retention) (n : Nat) : Retention :=
  { r with size := max n 1 }

/-- The same for another time in milliseconds. -/
def withTimeout (r : Retention) (ms : Nat) : Retention :=
  { r with timeout := some ms }

/-- The same without expiry. -/
def withoutTimeout (r : Retention) : Retention :=
  { r with timeout := none }

/-- The same in another mode. -/
def withMode (r : Retention) (mode : Mode) : Retention :=
  { r with mode := mode }

/-- Change one setting, if its text is good: a positive size, a timeout in whole seconds of which
zero means none, or the name of a mode. -/
def set? (r : Retention) (setting : Setting) (raw : String) : Option Retention :=
  match setting with
  | .size =>
    match Decimal.word? (trim raw) with
    | some n => if n = 0 then none else some { r with size := n }
    | none => none
  | .timeout =>
    match Decimal.word? (trim raw) with
    | some n => some (if n = 0 then r.withoutTimeout else r.withTimeout (n * 1000))
    | none => none
  | .mode => (Mode.parse? raw).map r.withMode

/-- Change a setting if the properties name it. -/
def overlaySetting (properties : PropertyMap) (r : Retention) (setting : Setting) :
    Except CacheError Retention :=
  match properties.find? setting.key with
  | none => .ok r
  | some raw =>
    match r.set? setting raw with
    | some r' => .ok r'
    | none => .error (.invalidProperty setting.key raw)

/-- Change all settings that the properties name. The first bad one in the order size, timeout,
mode is the error. -/
def overlay (r : Retention) (properties : PropertyMap) : Except CacheError Retention :=
  Setting.all.foldlM (overlaySetting properties) r

/-- Change the settings that the properties name well. -/
def overlayLossy (r : Retention) (properties : PropertyMap) : Retention :=
  Setting.all.foldl (fun r setting =>
    match overlaySetting properties r setting with
    | .ok r' => r'
    | .error _ => r) r

/-- The standard settings changed by properties. -/
def ofProperties (properties : PropertyMap) : Except CacheError Retention :=
  standard.overlay properties

end Retention

end OlapClient.Cache
