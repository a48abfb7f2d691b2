import Mathlib.Data.List.Chain
import KernelDrivers.Library.Transition

/-!
# A mouse as a keyboard

`usbmouse_as_key.c` turns the buttons of USB mice into keys.  What a report
changes is found by comparing it with the report before, of which the driver
has one for all devices.
-/

namespace KernelDrivers.Input

open KernelDrivers.Library

inductive Key where
  | keyL
  | keyS
  | keyEnter
  deriving DecidableEq

/-- The bit of the button in byte 1 of a report. -/
def Key.button : Key → Nat
  | .keyL => 0
  | .keyS => 1
  | .keyEnter => 2

/-- A device with the events sent to its `input_dev`, and byte 1 of its last
report. -/
structure UsbmouseKey where
  events : List (Key × Bool)
  report : BitVec 8

variable {Device : Type} [DecidableEq Device]

/-- `preVal` is the static variable of the handler. -/
structure Mice (Device : Type) where
  preVal : BitVec 8
  attached : Device → Option UsbmouseKey

def Mice.start : Mice Device :=
  { preVal := 0
    attached := fun _ => none }

/-- The three comparisons of `usbmouse_as_key_irq`. -/
def keyEvents (preVal report : BitVec 8) : List (Key × Bool) :=
  [Key.keyL, Key.keyS, Key.keyEnter].filterMap fun key =>
    if preVal.getLsbD key.button ≠ report.getLsbD key.button then
      some (key, report.getLsbD key.button)
    else none

inductive MouseAction (Device : Type) where
  | probe (device : Device)
  | irq (device : Device) (buf : Fin 8 → BitVec 8)
  | disconnect (device : Device)

/-- A probe that fails leaves nothing behind.  The call of the handler that
`usb_kill_urb` may cause is one more report. -/
def mouseStep (mice : Mice Device) : MouseAction Device → Option (Mice Device)
  | .probe device =>
      match mice.attached device with
      | some _ => none
      | none => some { mice with
          attached := Function.update mice.attached device
            (some { events := [], report := 0 }) }
  | .irq device buf =>
      match mice.attached device with
      | none => none
      | some uKey => some
          { preVal := buf 1
            attached := Function.update mice.attached device (some
              { events := uKey.events ++ keyEvents mice.preVal (buf 1)
                report := buf 1 }) }
  | .disconnect device =>
      match mice.attached device with
      | none => none
      | some _ => some { mice with
          attached := Function.update mice.attached device none }

/-- The values sent for one key. -/
def keyValues (events : List (Key × Bool)) (key : Key) : List Bool :=
  (events.filter fun event => event.1 = key).map Prod.snd

/-- The state of a key after these values. -/
def pressed (values : List Bool) : Bool :=
  values.getLastD false

/-- Press, release, press and so on. -/
def Alternates (values : List Bool) : Prop :=
  (false :: values).IsChain (· ≠ ·)

theorem pressed_snoc (values : List Bool) (value : Bool) :
    pressed (values ++ [value]) = value := by
  simp [pressed]

theorem alternates_snoc {values : List Bool} {value : Bool} :
    Alternates (values ++ [value]) ↔
      Alternates values ∧ pressed values ≠ value := by
  rw [Alternates, ← List.cons_append, List.isChain_append]
  simp [Alternates, pressed, List.getLast?_cons, List.getLastD_eq_getLast?]

theorem keyValues_cons (event : Key × Bool) (events : List (Key × Bool))
    (key : Key) :
    keyValues (event :: events) key =
      if event.1 = key then event.2 :: keyValues events key
      else keyValues events key := by
  by_cases same : event.1 = key <;> simp [keyValues, same]

/-- Where every key is looked at once, at most one event is for it. -/
theorem keyValues_filterMap {keys : List Key} (once : keys.Nodup)
    (changed value : Key → Bool) (key : Key) :
    keyValues (keys.filterMap fun key =>
        if changed key then some (key, value key) else none) key =
      if key ∈ keys ∧ changed key = true then [value key] else [] := by
  induction keys with
  | nil => rfl
  | cons head keys induction =>
      obtain ⟨absent, once⟩ := List.nodup_cons.mp once
      have rest := induction once
      by_cases same : head = key
      · subst same
        rw [if_neg (fun found => absent found.1)] at rest
        cases headChanged : changed head
        · simp only [List.filterMap_cons, headChanged, Bool.false_eq_true,
            if_false, and_false]
          exact rest
        · simp only [List.filterMap_cons, headChanged, if_true, keyValues_cons,
            rest, List.mem_cons_self, and_self]
      · have different : key ≠ head := fun equal => same equal.symm
        have member : key ∈ head :: keys ↔ key ∈ keys := by simp [different]
        simp only [member]
        rw [← rest]
        cases headChanged : changed head
        · simp only [List.filterMap_cons, headChanged, Bool.false_eq_true,
            if_false]
        · simp only [List.filterMap_cons, headChanged, if_true, keyValues_cons,
            same, if_false]

theorem keyValues_irq (events : List (Key × Bool)) (preVal report : BitVec 8)
    (key : Key) :
    keyValues (events ++ keyEvents preVal report) key =
      keyValues events key ++
        if preVal.getLsbD key.button ≠ report.getLsbD key.button then
          [report.getLsbD key.button] else [] := by
  have once : [Key.keyL, Key.keyS, Key.keyEnter].Nodup := by decide
  have listed : key ∈ [Key.keyL, Key.keyS, Key.keyEnter] := by
    cases key <;> decide
  have own := keyValues_filterMap once
    (fun key => preVal.getLsbD key.button ≠ report.getLsbD key.button)
    (fun key => report.getLsbD key.button) key
  simp only [decide_eq_true_eq, listed, true_and] at own
  rw [← own, keyEvents, keyValues, List.filter_append, List.map_append,
    keyValues, keyValues]

/-- What one device's events say about its keys is what it reported last. -/
structure UsbmouseKey.Tracked (uKey : UsbmouseKey) : Prop where
  pressed : ∀ key, pressed (keyValues uKey.events key) =
    uKey.report.getLsbD key.button
  alternates : ∀ key, Alternates (keyValues uKey.events key)

def Mice.Tracked (mice : Mice Device) : Prop :=
  ∀ device uKey, mice.attached device = some uKey → uKey.Tracked

def KeysTracked (mice : Mice Device) (action : MouseAction Device) : Prop :=
  ∀ next, mouseStep mice action = some next → next.Tracked

/-- A report comes while the static variable agrees with the device's own last
report about all three buttons. -/
def ReportSafe (mice : Mice Device) : MouseAction Device → Prop
  | .irq device _ => ∀ uKey, mice.attached device = some uKey → ∀ key : Key,
      mice.preVal.getLsbD key.button = uKey.report.getLsbD key.button
  | _ => True

omit [DecidableEq Device] in
/-- The events of a report track it exactly if the previous value is the
device's own. -/
theorem tracked_irq_iff {uKey : UsbmouseKey} (tracked : uKey.Tracked)
    (preVal report : BitVec 8) :
    UsbmouseKey.Tracked { events := uKey.events ++ keyEvents preVal report
                          report := report } ↔
      ∀ key : Key, preVal.getLsbD key.button =
        uKey.report.getLsbD key.button := by
  constructor
  · rintro ⟨after, alternates⟩ key
    have value := after key
    have chain := alternates key
    have before := tracked.pressed key
    dsimp only at value chain
    rw [keyValues_irq] at value chain
    split at value
    · rename_i changed
      rw [if_pos changed, alternates_snoc, before] at chain
      have other := chain.2
      revert changed other
      cases preVal.getLsbD key.button <;> cases report.getLsbD key.button <;>
        cases uKey.report.getLsbD key.button <;> decide
    · rename_i same
      rw [List.append_nil, before] at value
      rw [value]
      exact not_not.mp same
  · intro own
    constructor
    · intro key
      dsimp only
      rw [keyValues_irq]
      split
      · rw [pressed_snoc]
      · rename_i same
        rw [List.append_nil, tracked.pressed key, ← own key]
        exact not_not.mp same
    · intro key
      dsimp only
      rw [keyValues_irq]
      split
      · rename_i changed
        rw [alternates_snoc, tracked.pressed key, ← own key]
        exact ⟨tracked.alternates key, changed⟩
      · rw [List.append_nil]
        exact tracked.alternates key

theorem Mice.Tracked.update {mice : Mice Device} (tracked : mice.Tracked)
    (preVal : BitVec 8) (device : Device) (uKey : Option UsbmouseKey) :
    Mice.Tracked { preVal := preVal
                   attached := Function.update mice.attached device uKey } ↔
      ∀ changed, uKey = some changed → changed.Tracked := by
  constructor
  · intro after changed isChanged
    apply after device changed
    simp only [Function.update_self, isChanged]
  · intro after other otherKey isOther
    dsimp only at isOther
    by_cases same : other = device
    · subst same
      rw [Function.update_self] at isOther
      exact after otherKey isOther
    · rw [Function.update_of_ne same] at isOther
      exact tracked other otherKey isOther

theorem UsbmouseKey.tracked_probe :
    UsbmouseKey.Tracked { events := [], report := 0 } := by
  constructor
  · intro key
    cases key <;> rfl
  · intro key
    exact List.isChain_singleton false

theorem keysTracked_iff {mice : Mice Device} (tracked : mice.Tracked)
    (action : MouseAction Device) :
    KeysTracked mice action ↔ ReportSafe mice action := by
  cases action with
  | probe device =>
      refine iff_of_true ?_ trivial
      intro next taken
      cases attached : mice.attached device with
      | some uKey => simp [mouseStep, attached] at taken
      | none =>
          simp only [mouseStep, attached, Option.some.injEq] at taken
          subst taken
          rw [tracked.update]
          rintro _ ⟨⟩
          exact UsbmouseKey.tracked_probe
  | irq device buf =>
      cases attached : mice.attached device with
      | none => simp [KeysTracked, ReportSafe, mouseStep, attached]
      | some uKey =>
          simp only [KeysTracked, ReportSafe, mouseStep, attached,
            Option.some.injEq, forall_eq']
          rw [tracked.update]
          simp only [Option.some.injEq, forall_eq']
          exact tracked_irq_iff (tracked device uKey attached) _ _
  | disconnect device =>
      refine iff_of_true ?_ trivial
      intro next taken
      cases attached : mice.attached device with
      | none => simp [mouseStep, attached] at taken
      | some uKey =>
          simp only [mouseStep, attached, Option.some.injEq] at taken
          subst taken
          rw [tracked.update]
          rintro _ ⟨⟩

/-- The keys of every device are tracked along exactly those actions that are
all safe. -/
theorem keys_tracked_iff (actions : List (MouseAction Device)) :
    Along mouseStep KeysTracked (.start : Mice Device) actions ↔
      Along mouseStep ReportSafe (.start : Mice Device) actions := by
  have initial : (Mice.start : Mice Device).Tracked := by
    rintro device uKey ⟨⟩
  refine along_congr initial ?_ ?_
  · intro mice action next tracked kept taken
    exact kept next taken
  · intro mice action tracked
    exact keysTracked_iff tracked action

/-- A button held on one mouse hides the same button of another. -/
theorem not_keys_tracked_two :
    ¬Along mouseStep KeysTracked (.start : Mice Bool)
      [.probe false, .probe true, .irq false fun _ => 1,
       .irq true fun _ => 1] := by
  simp only [along_cons]
  rintro ⟨-, others⟩
  have last := ((((others _ rfl).2 _ rfl).2 _ rfl).1 _ rfl) true _ rfl
  exact absurd (last.pressed .keyL) (by decide)

end KernelDrivers.Input
