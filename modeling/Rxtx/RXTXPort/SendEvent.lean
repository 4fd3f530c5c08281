import Rxtx.Library.Runs
import Rxtx.RXTXPort.Fields

open Runs

namespace Rxtx.RXTXPort

/-- The next access of a thread that is in `sendEvent`. `readFlag` has the object that `monThread`
    referred to, `call` the listener. -/
inductive SendStage (L : Type) where
  | testFd | testListener | testThread
  | readThread
  | readFlag (thread : Nat)
  | testInterrupted
  | findListener | readListener
  | call (listener : L)
  | retestFd | retestListener | retestThread

structure Sending (L : Type) where
  event : EventType
  state : Bool
  stage : SendStage L

structure Heard (T L : Type) where
  thread : T
  listener : L
  event : EventType
  oldValue : Bool
  newValue : Bool

/-- The fields of the port that `sendEvent` reads, and the `MonitorThread` objects made so far with
    their flags. What was heard and returned is kept beside them; a call that has returned nothing has
    thrown a `NullPointerException`. -/
structure Delivery (T L : Type) where
  fd : Int32
  spEventListener : Option L
  monThread : Option Nat
  created : Nat
  enabled : Nat → EventType → Bool
  monThreadisInterrupted : Bool
  sending : T → Option (Sending L)
  heard : List (Heard T L)
  returned : List (T × Option Bool)

inductive DeliveryLabel (T L : Type) where
  | sendEvent (thread : T) (event : EventType) (state : Bool)
  | advance (thread : T)
  | setFlag (thread : Nat) (event : EventType) (enable : Bool)
  | setListener (listener : Option L)
  | newMonitorThread
  | forgetMonitorThread
  | setInterrupted (interrupted : Bool)
  | setFd (fd : Int32)

variable {T L : Type} [DecidableEq T]

def Delivery.goto (s : Delivery T L) (thread : T) (call : Sending L) (stage : SendStage L) :
    Delivery T L :=
  { s with sending := Function.update s.sending thread (some { call with stage := stage }) }

def Delivery.answer (s : Delivery T L) (thread : T) (result : Option Bool) : Delivery T L :=
  { s with
    sending := Function.update s.sending thread none
    returned := s.returned ++ [(thread, result)] }

def Delivery.hear (s : Delivery T L) (thread : T) (call : Sending L) (listener : L) :
    Delivery T L :=
  { s with heard := s.heard ++ [⟨thread, listener, call.event, !call.state, call.state⟩] }

def sendEventAccess (thread : T) (call : Sending L) (s : Delivery T L) : Delivery T L :=
  match call.stage with
  | .testFd => if s.fd = 0 then s.answer thread true else s.goto thread call .testListener
  | .testListener =>
    if s.spEventListener.isNone then s.answer thread true else s.goto thread call .testThread
  | .testThread =>
    if s.monThread.isNone then s.answer thread true else s.goto thread call .readThread
  | .readThread =>
    match s.monThread with
    | none => s.answer thread none
    | some object => s.goto thread call (.readFlag object)
  | .readFlag object =>
    if s.enabled object call.event then s.goto thread call .testInterrupted
    else s.answer thread false
  | .testInterrupted =>
    if s.monThreadisInterrupted then s.answer thread true else s.goto thread call .findListener
  | .findListener =>
    s.goto thread call (if s.spEventListener.isSome then .readListener else .retestFd)
  | .readListener =>
    match s.spEventListener with
    | none => s.answer thread none
    | some listener => s.goto thread call (.call listener)
  | .call listener => (s.hear thread call listener).goto thread call .retestFd
  | .retestFd => if s.fd = 0 then s.answer thread true else s.goto thread call .retestListener
  | .retestListener =>
    if s.spEventListener.isNone then s.answer thread true else s.goto thread call .retestThread
  | .retestThread => s.answer thread s.monThread.isNone

/-- Left out are events that have no flag, for which `sendEvent` gives false at once, and the
    calls of it that a listener makes itself. -/
def deliveryStep (label : DeliveryLabel T L) (s : Delivery T L) : Option (Delivery T L) :=
  match label with
  | .sendEvent thread event state =>
    match s.sending thread with
    | none => some (s.goto thread ⟨event, state, .testFd⟩ .testFd)
    | some _ => none
  | .advance thread => (s.sending thread).map fun call => sendEventAccess thread call s
  | .setFlag object event enable => some { s with
      enabled := Function.update s.enabled object
        (Function.update (s.enabled object) event enable) }
  | .setListener listener => some { s with spEventListener := listener }
  | .newMonitorThread => some { s with
      monThread := some s.created
      created := s.created + 1
      enabled := Function.update s.enabled s.created fun _ => false }
  | .forgetMonitorThread => some { s with monThread := none }
  | .setInterrupted interrupted => some { s with monThreadisInterrupted := interrupted }
  | .setFd fd => some { s with fd := fd }

inductive Accessed (s : Delivery T L) (event : EventType) : SendStage L → Option (SendStage L) → Prop
  | returns (stage : SendStage L) (silent : ∀ listener, stage ≠ .call listener) :
      Accessed s event stage none
  | open_ : Accessed s event .testFd (some .testListener)
  | listening : Accessed s event .testListener (some .testThread)
  | monitored : Accessed s event .testThread (some .readThread)
  | thread (object : Nat) (refers : s.monThread = some object) :
      Accessed s event .readThread (some (.readFlag object))
  | enabled (object : Nat) (flag : s.enabled object event = true) :
      Accessed s event (.readFlag object) (some .testInterrupted)
  | running (uninterrupted : s.monThreadisInterrupted = false) :
      Accessed s event .testInterrupted (some .findListener)
  | found : Accessed s event .findListener (some .readListener)
  | unfound : Accessed s event .findListener (some .retestFd)
  | read (listener : L) (refers : s.spEventListener = some listener) :
      Accessed s event .readListener (some (.call listener))
  | called (listener : L) : Accessed s event (.call listener) (some .retestFd)
  | stillOpen : Accessed s event .retestFd (some .retestListener)
  | stillListening : Accessed s event .retestListener (some .retestThread)

def Sending.hears (thread : T) (call : Sending L) : List (Heard T L) :=
  match call.stage with
  | .call listener => [⟨thread, listener, call.event, !call.state, call.state⟩]
  | _ => []

structure Moved (thread : T) (call : Sending L) (s s' : Delivery T L) : Prop where
  stage : ∃ next, Accessed s call.event call.stage next ∧ s'.sending = Function.update s.sending
    thread (next.map fun stage => { call with stage := stage })
  heard : s'.heard = s.heard ++ call.hears thread
  enabled : s'.enabled = s.enabled
  monThread : s'.monThread = s.monThread
  interrupted : s'.monThreadisInterrupted = s.monThreadisInterrupted
  listener : s'.spEventListener = s.spEventListener

theorem sendEventAccess_moved (thread : T) (call : Sending L) (s : Delivery T L) :
    Moved thread call s (sendEventAccess thread call s) := by
  rcases call with ⟨event, state, stage⟩
  have returned (result : Option Bool) (silent : ∀ listener, stage ≠ .call listener) :
      Moved thread ⟨event, state, stage⟩ s (s.answer thread result) := by
    refine ⟨⟨none, .returns stage silent, rfl⟩, ?_, rfl, rfl, rfl, rfl⟩
    cases stage with
    | call listener => exact absurd rfl (silent listener)
    | _ => exact (List.append_nil _).symm
  have went (next : SendStage L) (accessed : Accessed s event stage (some next))
      (silent : ∀ listener, stage ≠ .call listener) :
      Moved thread ⟨event, state, stage⟩ s (s.goto thread ⟨event, state, stage⟩ next) := by
    refine ⟨⟨some next, accessed, rfl⟩, ?_, rfl, rfl, rfl, rfl⟩
    cases stage with
    | call listener => exact absurd rfl (silent listener)
    | _ => exact (List.append_nil _).symm
  cases stage with
  | testFd =>
    simp only [sendEventAccess]
    split
    · exact returned _ nofun
    · exact went _ .open_ nofun
  | testListener =>
    simp only [sendEventAccess]
    split
    · exact returned _ nofun
    · exact went _ .listening nofun
  | testThread =>
    simp only [sendEventAccess]
    split
    · exact returned _ nofun
    · exact went _ .monitored nofun
  | readThread =>
    simp only [sendEventAccess]
    split
    · exact returned _ nofun
    next object refers => exact went _ (.thread object refers) nofun
  | readFlag object =>
    simp only [sendEventAccess]
    split
    next flag => exact went _ (.enabled object flag) nofun
    · exact returned _ nofun
  | testInterrupted =>
    simp only [sendEventAccess]
    split
    · exact returned _ nofun
    next running => exact went _ (.running (Bool.eq_false_of_not_eq_true running)) nofun
  | findListener =>
    simp only [sendEventAccess]
    split
    · exact went _ .found nofun
    · exact went _ .unfound nofun
  | readListener =>
    simp only [sendEventAccess]
    split
    · exact returned _ nofun
    next listener refers => exact went _ (.read listener refers) nofun
  | call listener =>
    exact ⟨⟨some .retestFd, .called listener, rfl⟩, rfl, rfl, rfl, rfl, rfl⟩
  | retestFd =>
    simp only [sendEventAccess]
    split
    · exact returned _ nofun
    · exact went _ .stillOpen nofun
  | retestListener =>
    simp only [sendEventAccess]
    split
    · exact returned _ nofun
    · exact went _ .stillListening nofun
  | retestThread => exact returned _ nofun

inductive Seen (thread : T) (label : DeliveryLabel T L) (s s' : Delivery T L) : Prop
  | own (call : Sending L) (inside : s.sending thread = some call) (moved : Moved thread call s s')
  | enters (event : EventType) (state : Bool) (outside : s.sending thread = none)
      (entered : s'.sending thread = some ⟨event, state, .testFd⟩)
      (heard : s'.heard = s.heard)
  | other (same : s'.sending thread = s.sending thread)
      (heard : s'.heard.filter (·.thread = thread) = s.heard.filter (·.thread = thread))

theorem deliveryStep_seen (thread : T) {label : DeliveryLabel T L} {s s' : Delivery T L}
    (taken : deliveryStep label s = some s') : Seen thread label s s' := by
  cases label with
  | sendEvent other event state =>
    simp only [deliveryStep] at taken
    split at taken
    next outside =>
      cases taken
      by_cases same : thread = other
      · subst same
        exact .enters event state outside (by simp [Delivery.goto]) rfl
      · apply Seen.other
        · simp [Delivery.goto, Function.update_of_ne same]
        · rfl
    · cases taken
  | advance other =>
    obtain ⟨call, inside, rfl⟩ := Option.map_eq_some_iff.mp taken
    have moved := sendEventAccess_moved other call s
    by_cases same : thread = other
    · subst same
      exact .own call inside moved
    · obtain ⟨next, -, sending⟩ := moved.stage
      have apart : ¬ other = thread := fun eq => same eq.symm
      apply Seen.other
      · rw [sending, Function.update_of_ne same]
      · have foreign : (call.hears other).filter (·.thread = thread) = [] := by
          unfold Sending.hears
          split <;> simp [apart]
        rw [moved.heard, List.filter_append, foreign, List.append_nil]
  | setFlag | setListener | newMonitorThread | forgetMonitorThread | setInterrupted | setFd =>
    cases taken
    exact .other rfl rfl

def Delivery.heardBy (s : Delivery T L) (thread : T) (wanted : Heard T L → Bool) : Nat :=
  (s.heard.filter (·.thread = thread)).countP wanted

/-- A thread that is past the test counts for the event that it may yet deliver. -/
def Delivery.due (s : Delivery T L) (thread : T) (past : Sending L → Bool) : Nat :=
  ((s.sending thread).any past).toNat

/-- A test of `sendEvent` that lets nobody through while it is `closed`, and what the others may
    not do then. -/
structure Gate (closed : Delivery T L → Prop) (keeps : DeliveryLabel T L → Prop)
    (past : Delivery T L → Sending L → Bool) (wanted : Heard T L → Bool) : Prop where
  stays {s s' : Delivery T L} {label : DeliveryLabel T L} : closed s → keeps label →
    deliveryStep label s = some s' → closed s'
  holds {s s' : Delivery T L} {label : DeliveryLabel T L} {call : Sending L} : closed s →
    keeps label → deliveryStep label s = some s' → past s' call = true → past s call = true
  start (s : Delivery T L) (event : EventType) (state : Bool) :
    past s ⟨event, state, .testFd⟩ = false
  access {s : Delivery T L} {call : Sending L} {next : SendStage L} : closed s →
    Accessed s call.event call.stage (some next) → past s { call with stage := next } = true →
    past s call = true
  heard {s : Delivery T L} {call : Sending L} {thread : T} : (call.hears thread).any wanted = true →
    past s call = true
  after (s : Delivery T L) (call : Sending L) : past s { call with stage := .retestFd } = false

section

variable {closed : Delivery T L → Prop} {keeps : DeliveryLabel T L → Prop}
  {past : Delivery T L → Sending L → Bool} {wanted : Heard T L → Bool}

theorem Gate.step (gate : Gate closed keeps past wanted) (thread : T)
    {label : DeliveryLabel T L} {s s' : Delivery T L} (shut : closed s) (kept : keeps label)
    (taken : deliveryStep label s = some s') :
    s'.heardBy thread wanted + s'.due thread (past s') ≤
      s.heardBy thread wanted + s.due thread (past s) := by
  have holds (call : Sending L) (later : past s' call = true) : past s call = true :=
    gate.holds shut kept taken later
  cases deliveryStep_seen thread taken with
  | own call inside moved =>
    obtain ⟨next, accessed, sending⟩ := moved.stage
    have here : s'.sending thread = next.map fun stage => { call with stage := stage } := by
      rw [sending, Function.update_self]
    have own : (call.hears thread).filter (·.thread = thread) = call.hears thread := by
      unfold Sending.hears
      split <;> simp
    have more : s'.heardBy thread wanted =
        s.heardBy thread wanted + (call.hears thread).countP wanted := by
      rw [Delivery.heardBy, moved.heard, List.filter_append, own, List.countP_append]
      rfl
    rw [more, Nat.add_assoc]
    apply Nat.add_le_add_left
    simp only [Delivery.due, here, inside, Option.any_some]
    by_cases calls : ∃ listener, call.stage = .call listener
    · obtain ⟨listener, at_⟩ := calls
      obtain rfl : next = some .retestFd := by
        rw [at_] at accessed
        cases accessed with
        | returns _ silent => exact absurd rfl (silent listener)
        | called => rfl
      have done : past s' { call with stage := .retestFd } = false := gate.after s' call
      simp only [Option.map_some, Option.any_some, done, Bool.toNat_false, Nat.add_zero]
      have one : (call.hears thread).length = 1 := by
        unfold Sending.hears
        rw [at_]
        rfl
      by_cases hears : (call.hears thread).any wanted = true
      · rw [gate.heard (s := s) hears, Bool.toNat_true, ← one]
        exact List.countP_le_length
      · have none : (call.hears thread).countP wanted = 0 := by
          rw [List.countP_eq_zero]
          intro told member yes
          exact hears (List.any_eq_true.mpr ⟨told, member, yes⟩)
        omega
    · have silent : call.hears thread = [] := by
        unfold Sending.hears
        split
        next listener at_ => exact absurd ⟨listener, at_⟩ calls
        · rfl
      rw [silent, List.countP_nil, Nat.zero_add]
      cases next with
      | none => exact Nat.zero_le _
      | some stage =>
        simp only [Option.map_some, Option.any_some]
        by_cases later : past s' { call with stage := stage } = true
        · rw [later, gate.access shut accessed (holds _ later)]
        · rw [Bool.eq_false_of_not_eq_true later]
          exact Nat.zero_le _
  | enters event state outside entered heard =>
    have fresh := gate.start s' event state
    simp [Delivery.heardBy, Delivery.due, heard, entered, outside, fresh]
  | other same heard =>
    have counted : s'.heardBy thread wanted = s.heardBy thread wanted := by
      simp only [Delivery.heardBy, heard]
    rw [counted]
    apply Nat.add_le_add_left
    simp only [Delivery.due, same]
    cases s.sending thread with
    | none => exact Nat.le_refl _
    | some call =>
      simp only [Option.any_some]
      by_cases later : past s' call = true
      · rw [later, holds call later]
      · rw [Bool.eq_false_of_not_eq_true later]
        exact Nat.zero_le _

theorem Gate.late (gate : Gate closed keeps past wanted) (thread : T)
    {labels : List (DeliveryLabel T L)} {s s' : Delivery T L}
    (path : Path (Takes deliveryStep) s labels s') (shut : closed s)
    (kept : ∀ label ∈ labels, keeps label) :
    s'.heardBy thread wanted ≤ s.heardBy thread wanted + s.due thread (past s) := by
  induction path with
  | nil => exact Nat.le_add_right _ _
  | cons taken path ih =>
    rw [List.forall_mem_cons] at kept
    have first := gate.step thread shut kept.1 taken
    have rest := ih (gate.stays shut kept.1 taken) kept.2
    omega

end

/-- The monitor thread that the port refers to does not want the event. -/
def Delivery.Disabled (s : Delivery T L) (event : EventType) : Prop :=
  ∀ object, s.monThread = some object → s.enabled object event = false

/-- Past the test of its flag, or before it with an object whose flag is set. -/
def Sending.pastFlag (event : EventType) (s : Delivery T L) (call : Sending L) : Bool :=
  decide (call.event = event) && match call.stage with
    | .readFlag object => s.enabled object event
    | .testInterrupted | .findListener | .readListener | .call _ => true
    | _ => false

def Sending.pastInterrupted (call : Sending L) : Bool :=
  match call.stage with
  | .findListener | .readListener | .call _ => true
  | _ => false

def Sending.calls [DecidableEq L] (listener : L) (call : Sending L) : Bool :=
  match call.stage with
  | .call other => decide (other = listener)
  | _ => false

omit [DecidableEq T] in
theorem hears_any {call : Sending L} {thread : T} {wanted : Heard T L → Bool}
    (some_ : (call.hears thread).any wanted = true) :
    ∃ listener, call.stage = .call listener ∧
      wanted ⟨thread, listener, call.event, !call.state, call.state⟩ = true := by
  unfold Sending.hears at some_
  split at some_
  next listener at_ => exact ⟨listener, at_, by simpa using some_⟩
  · cases some_

theorem flag_gate (event : EventType) :
    Gate (fun s : Delivery T L => s.Disabled event)
      (fun label => ∀ object, label ≠ .setFlag object event true)
      (Sending.pastFlag event) (fun heard => decide (heard.event = event)) where
  stays := by
    intro s s' label disabled kept taken
    cases label with
    | sendEvent thread other state =>
      simp only [deliveryStep] at taken
      split at taken
      · cases taken
        exact disabled
      · cases taken
    | advance thread =>
      obtain ⟨call, inside, rfl⟩ := Option.map_eq_some_iff.mp taken
      have moved := sendEventAccess_moved thread call s
      intro object refers
      rw [moved.monThread] at refers
      rw [moved.enabled]
      exact disabled object refers
    | setFlag object other enable =>
      cases taken
      intro current refers
      by_cases same : current = object
      · subst same
        by_cases here : event = other
        · subst here
          cases enable with
          | false => simp
          | true => exact absurd rfl (kept current)
        · simp [Function.update_of_ne here, disabled current refers]
      · simp [Function.update_of_ne same, disabled current refers]
    | newMonitorThread =>
      cases taken
      intro object refers
      obtain rfl := Option.some.inj refers
      simp
    | forgetMonitorThread =>
      cases taken
      intro object refers
      cases refers
    | setListener | setInterrupted | setFd =>
      cases taken
      exact disabled
  holds := by
    intro s s' label call disabled kept taken later
    have flags (object : Nat) (set : s'.enabled object event = true) :
        s.enabled object event = true := by
      cases label with
      | sendEvent thread other state =>
        simp only [deliveryStep] at taken
        split at taken
        · cases taken
          exact set
        · cases taken
      | advance thread =>
        obtain ⟨call, inside, rfl⟩ := Option.map_eq_some_iff.mp taken
        rwa [(sendEventAccess_moved thread call s).enabled] at set
      | setFlag changed other enable =>
        cases taken
        by_cases same : object = changed
        · subst same
          by_cases here : event = other
          · subst here
            cases enable with
            | false => simp at set
            | true => exact absurd rfl (kept object)
          · simpa [Function.update_of_ne here] using set
        · simpa [Function.update_of_ne same] using set
      | newMonitorThread =>
        cases taken
        by_cases same : object = s.created
        · subst same
          simp at set
        · simpa [Function.update_of_ne same] using set
      | forgetMonitorThread | setListener | setInterrupted | setFd =>
        cases taken
        exact set
    unfold Sending.pastFlag at later ⊢
    rw [Bool.and_eq_true] at later ⊢
    refine ⟨later.1, ?_⟩
    have right := later.2
    split at right
    next object at_ => rw [flags object right]
    · rfl
    · rfl
    · rfl
    · rfl
    · cases right
  start := by
    intro s other state
    simp [Sending.pastFlag]
  access := by
    intro s call next disabled accessed later
    rcases call with ⟨other, state, stage⟩
    unfold Sending.pastFlag at later ⊢
    rw [Bool.and_eq_true] at later ⊢
    refine ⟨later.1, ?_⟩
    have same : other = event := of_decide_eq_true later.1
    cases accessed with
    | thread object refers =>
      have right : s.enabled object event = true := later.2
      rw [disabled object refers] at right
      cases right
    | enabled object flag =>
      subst same
      exact flag
    | running | found | read => rfl
    | _ => cases later.2
  heard := by
    intro s call thread hears
    obtain ⟨listener, at_, wanted⟩ := hears_any hears
    unfold Sending.pastFlag
    simp only [decide_eq_true_eq] at wanted
    simp [at_, wanted]
  after := by
    intro s call
    simp [Sending.pastFlag]

theorem interrupted_gate :
    Gate (fun s : Delivery T L => s.monThreadisInterrupted = true)
      (fun label => label ≠ .setInterrupted false)
      (fun _ => Sending.pastInterrupted) (fun _ => true) where
  stays := by
    intro s s' label interrupted kept taken
    cases label with
    | sendEvent thread other state =>
      simp only [deliveryStep] at taken
      split at taken
      · cases taken
        exact interrupted
      · cases taken
    | advance thread =>
      obtain ⟨call, inside, rfl⟩ := Option.map_eq_some_iff.mp taken
      rw [(sendEventAccess_moved thread call s).interrupted]
      exact interrupted
    | setInterrupted flag =>
      cases taken
      cases flag with
      | true => rfl
      | false => exact absurd rfl kept
    | setFlag | setListener | newMonitorThread | forgetMonitorThread | setFd =>
      cases taken
      exact interrupted
  holds := fun _ _ _ later => later
  start := fun _ _ _ => rfl
  access := by
    intro s call next interrupted accessed later
    rcases call with ⟨event, state, stage⟩
    cases accessed with
    | running uninterrupted =>
      rw [interrupted] at uninterrupted
      cases uninterrupted
    | found | read => rfl
    | _ => cases later
  heard := by
    intro s call thread hears
    obtain ⟨listener, at_, -⟩ := hears_any hears
    simp [Sending.pastInterrupted, at_]
  after := fun _ _ => rfl

theorem listener_gate [DecidableEq L] (listener : L) :
    Gate (fun s : Delivery T L => s.spEventListener ≠ some listener)
      (fun label => label ≠ .setListener (some listener))
      (fun _ => Sending.calls listener) (fun heard => decide (heard.listener = listener)) where
  stays := by
    intro s s' label removed kept taken
    cases label with
    | sendEvent thread other state =>
      simp only [deliveryStep] at taken
      split at taken
      · cases taken
        exact removed
      · cases taken
    | advance thread =>
      obtain ⟨call, inside, rfl⟩ := Option.map_eq_some_iff.mp taken
      rw [(sendEventAccess_moved thread call s).listener]
      exact removed
    | setListener other =>
      cases taken
      intro same
      have registers : other = some listener := same
      exact kept (congrArg DeliveryLabel.setListener registers)
    | setFlag | newMonitorThread | forgetMonitorThread | setInterrupted | setFd =>
      cases taken
      exact removed
  holds := fun _ _ _ later => later
  start := fun _ _ _ => rfl
  access := by
    intro s call next removed accessed later
    rcases call with ⟨event, state, stage⟩
    cases accessed with
    | read other refers =>
      obtain rfl := of_decide_eq_true later
      exact absurd refers removed
    | _ => cases later
  heard := by
    intro s call thread hears
    obtain ⟨other, at_, wanted⟩ := hears_any hears
    simpa [Sending.calls, at_] using wanted
  after := fun _ _ => rfl

/-- Where notification of an event has been switched off, the monitor thread interrupted or a
    listener removed, and nobody undoes it, each thread still delivers at most the one event with
    which it was past the test. -/
theorem late_events [DecidableEq L] {labels : List (DeliveryLabel T L)} {s s' : Delivery T L}
    (path : Path (Takes deliveryStep) s labels s') (thread : T) :
    (∀ event, s.Disabled event → (∀ object, .setFlag object event true ∉ labels) →
      s'.heardBy thread (·.event = event) ≤
        s.heardBy thread (·.event = event) + s.due thread (Sending.pastFlag event s)) ∧
    (s.monThreadisInterrupted = true → .setInterrupted false ∉ labels →
      s'.heardBy thread (fun _ => true) ≤
        s.heardBy thread (fun _ => true) + s.due thread Sending.pastInterrupted) ∧
    (∀ listener, s.spEventListener ≠ some listener → .setListener (some listener) ∉ labels →
      s'.heardBy thread (·.listener = listener) ≤
        s.heardBy thread (·.listener = listener) + s.due thread (Sending.calls listener)) := by
  and_intros
  · intro event disabled never
    apply (flag_gate event).late thread path disabled
    intro label member object same
    exact never object (same ▸ member)
  · intro interrupted never
    apply interrupted_gate.late thread path interrupted
    intro label member same
    exact never (same ▸ member)
  · intro listener removed never
    apply (listener_gate listener).late thread path removed
    intro label member same
    exact never (same ▸ member)

theorem late_events_one :
    ∃ s', Path (Takes deliveryStep)
        (⟨3, some (), some 0, 1, fun _ _ => false, false,
          fun _ => some ⟨.cts, true, .testInterrupted⟩, [], []⟩ :
          Delivery Unit Unit)
        [.advance (), .advance (), .advance (), .advance ()] s' ∧ s'.heard.length = 1 ∧
      s'.heardBy () (·.event = .cts) ≤ 1 := by
  let s : Delivery Unit Unit := ⟨3, some (), some 0, 1, fun _ _ => false, false,
    fun _ => some ⟨.cts, true, .testInterrupted⟩, [], []⟩
  have run : ∃ s', follow deliveryStep [.advance (), .advance (), .advance (), .advance ()] s =
      some s' ∧ s'.heard.length = 1 := ⟨_, rfl, rfl⟩
  rcases run with ⟨s', followed, one⟩
  have path := follow_path followed
  have late := (late_events path ()).1 .cts (fun _ _ => rfl) (by simp)
  exact ⟨s', path, one, late⟩

end Rxtx.RXTXPort
