import SpaceVeins.SimTime
import SpaceVeins.Shared.Runs

/-!
# Modules that are started, stopped and crashed

`OperationalBase` passes messages on to its module while the module is up, refuses
most of them while it is down, and leads it through lifecycle operations. Neither
of the modules here delays the end of an operation, so an operation is one event.
-/

set_option autoImplicit false

namespace SpaceVeins
open Runs

/-- `OperationalBase::State`. -/
inductive OperationalState where
  | STARTING_OPERATION
  | OPERATING
  | STOPPING_OPERATION
  | CRASHING_OPERATION
  | NOT_OPERATING
deriving DecidableEq, Repr

inductive LifecycleOperation where
  | ModuleStartOperation
  | ModuleStopOperation
  | ModuleCrashOperation
deriving DecidableEq, Repr

/-- A module with its handlers. `σ` is its own state, `ε` are the messages that reach it. -/
structure OperationalModule (σ ε : Type) where
  /-- `getComponentType()->getName()`. -/
  typeName : String
  time : ε → Int
  isSelfMessage : ε → Bool
  /-- The times at which self messages of the module are scheduled to arrive. -/
  arrivals : σ → List Int
  /-- The kernel can deliver the message now. -/
  Due : σ → ε → Prop
  /-- The kernel takes a self message off the event set before it delivers it. -/
  arrive : ε → σ → σ
  handleMessageWhenUp : ε → σ → Except SimError σ
  /-- A message that the module discards when it is down, before `OperationalBase` looks at it. -/
  discards : ε → Bool
  handleStartOperation : Int → σ → Except SimError σ
  handleStopOperation : σ → Except SimError σ
  handleCrashOperation : σ → Except SimError σ
  due_scheduled : ∀ s e, isSelfMessage e = true → Due s e → time e ∈ arrivals s
  arrive_other : ∀ s e, isSelfMessage e = false → arrive e s = s
  discards_other : ∀ e, discards e = true → isSelfMessage e = false

/-- A module with what `OperationalBase` keeps about it. -/
structure Operational (σ : Type) where
  operationalState : OperationalState
  lastChange : Int
  own : σ

/-- A message with its name, or an operation on the node. -/
inductive LifecycleEvent (ε : Type) where
  | message (name : String) (e : ε)
  | operation (now : Int) (operation : LifecycleOperation)

def LifecycleEvent.takesDown {ε : Type} : LifecycleEvent ε → Bool
  | .operation _ .ModuleStopOperation | .operation _ .ModuleCrashOperation => true
  | _ => false

namespace OperationalModule
variable {σ ε : Type} (m : OperationalModule σ ε)

/-- `initialize` in the stage of the module's layer, on a node that is up or not. -/
def initModule (now : Int) (up : Bool) (own : σ) : Except SimError (Operational σ) :=
  if up then do
    let own ← m.handleStartOperation now own
    pure ⟨.OPERATING, now, own⟩
  else .ok ⟨.NOT_OPERATING, now, own⟩

def handleMessageWhenDown (name : String) (e : ε) (s : Operational σ) :
    Except SimError (Operational σ) :=
  if m.discards e then .ok s
  else if m.isSelfMessage e then
    .error (.cRuntimeError
      ("Self message '" ++ name ++ "' received when " ++ m.typeName ++ " is down"))
  else if m.time e = s.lastChange then .ok s
  else
    .error (.cRuntimeError ("Message '" ++ name ++ "' received when " ++ m.typeName ++ " is down"))

def handleMessage (name : String) (e : ε) (s : Operational σ) : Except SimError (Operational σ) :=
  match s.operationalState with
  | .STARTING_OPERATION | .OPERATING | .STOPPING_OPERATION => do
    let own ← m.handleMessageWhenUp e s.own
    pure { s with own := own }
  | .NOT_OPERATING => m.handleMessageWhenDown name e s
  | .CRASHING_OPERATION => .error (.cRuntimeError "Invalid operational state: 3")

/-- `handleOperationStage` in the stage of the module's layer. -/
def handleOperation (now : Int) (operation : LifecycleOperation) (s : Operational σ) :
    Except SimError (Operational σ) :=
  match operation with
  | .ModuleStartOperation => do
    let s := { s with operationalState := .STARTING_OPERATION }
    let own ← m.handleStartOperation now s.own
    pure { s with operationalState := .OPERATING, lastChange := now, own := own }
  | .ModuleStopOperation => do
    let s := { s with operationalState := .STOPPING_OPERATION }
    let own ← m.handleStopOperation s.own
    pure { s with operationalState := .NOT_OPERATING, lastChange := now, own := own }
  | .ModuleCrashOperation => do
    let s := { s with operationalState := .CRASHING_OPERATION }
    let own ← m.handleCrashOperation s.own
    pure { s with operationalState := .NOT_OPERATING, lastChange := now, own := own }

/-- `NodeStatus` refuses to start a node that is not down, or to stop one that is not up. The nodes
have a `NodeStatus` (their parameter `hasStatus` is set); without one their modules take part in no
lifecycle operation. -/
def Accepts (s : Operational σ) : LifecycleOperation → Prop
  | .ModuleStartOperation => s.operationalState = .NOT_OPERATING
  | .ModuleStopOperation | .ModuleCrashOperation => s.operationalState = .OPERATING

def CanHappen (s : Operational σ) : LifecycleEvent ε → Prop
  | .message _ e => m.Due s.own e
  | .operation now operation => (∀ time ∈ m.arrivals s.own, now ≤ time) ∧ Accepts s operation

def handle (s : Operational σ) : LifecycleEvent ε → Except SimError (Operational σ)
  | .message name e => m.handleMessage name e { s with own := m.arrive e s.own }
  | .operation now operation => m.handleOperation now operation s

def Step (s : Operational σ) (event : LifecycleEvent ε) (s' : Operational σ) : Prop :=
  m.CanHappen s event ∧ m.handle s event = .ok s'

instance (s : Operational σ) (operation : LifecycleOperation) : Decidable (Accepts s operation) :=
  match operation with
  | .ModuleStartOperation => inferInstanceAs (Decidable (_ = _))
  | .ModuleStopOperation | .ModuleCrashOperation => inferInstanceAs (Decidable (_ = _))

instance [∀ s e, Decidable (m.Due s e)] (s : Operational σ) (event : LifecycleEvent ε) :
    Decidable (m.CanHappen s event) :=
  match event with
  | .message _ e => inferInstanceAs (Decidable (m.Due s.own e))
  | .operation _ _ => inferInstanceAs (Decidable (_ ∧ _))

/-- The step, computed. -/
def step? [∀ s e, Decidable (m.Due s e)] (s : Operational σ) (event : LifecycleEvent ε) :
    Option (Operational σ) :=
  if m.CanHappen s event then (m.handle s event).toOption else none

theorem step_of_step? [∀ s e, Decidable (m.Due s e)] {s s' : Operational σ}
    {event : LifecycleEvent ε} (h : m.step? s event = some s') : m.Step s event s' := by
  unfold step? at h
  split at h
  · rename_i hcan
    refine ⟨hcan, ?_⟩
    cases hresult : m.handle s event with
    | error e => simp [hresult, Except.toOption] at h
    | ok next =>
      rw [hresult] at h
      obtain rfl : next = s' := by simpa [Except.toOption] using h
      rfl
  · cases h

/-- No self message is scheduled while the module is down. -/
def IdleWhenDown (s : Operational σ) : Prop :=
  s.operationalState = .NOT_OPERATING → m.arrivals s.own = []

/-- If the event takes the module down, none of its self messages is scheduled. -/
def TakenDownIdle (s : Operational σ) (event : LifecycleEvent ε) : Prop :=
  event.takesDown = true → m.arrivals s.own = []

instance (s : Operational σ) (event : LifecycleEvent ε) : Decidable (m.TakenDownIdle s event) :=
  inferInstanceAs (Decidable (_ → _))

/-- The states between events. -/
def Settled (s : Operational σ) : Prop :=
  s.operationalState = .OPERATING ∨ s.operationalState = .NOT_OPERATING

/-- Stopping and crashing cancel nothing. -/
structure CancelsNothing : Prop where
  stop : ∀ s s', m.handleStopOperation s = .ok s' → m.arrivals s' = m.arrivals s
  crash : ∀ s s', m.handleCrashOperation s = .ok s' → m.arrivals s' = m.arrivals s

/-- What one event does to the operational state. -/
inductive Effect (s : Operational σ) : LifecycleEvent ε → Operational σ → Prop where
  | whenUp {name : String} {e : ε} {own : σ} : s.operationalState = .OPERATING →
      m.Due s.own e → m.handleMessageWhenUp e (m.arrive e s.own) = .ok own →
      Effect s (.message name e) { s with own := own }
  /-- Only messages of others are dropped, and nothing changes. -/
  | whenDown {name : String} {e : ε} : s.operationalState = .NOT_OPERATING →
      m.isSelfMessage e = false → Effect s (.message name e) s
  | start {now : Int} {own : σ} : s.operationalState = .NOT_OPERATING →
      m.handleStartOperation now s.own = .ok own →
      Effect s (.operation now .ModuleStartOperation) ⟨.OPERATING, now, own⟩
  | takenDown {now : Int} {operation : LifecycleOperation} {own : σ} :
      s.operationalState = .OPERATING →
      (LifecycleEvent.operation now operation : LifecycleEvent ε).takesDown = true →
      m.handleStopOperation s.own = .ok own ∨ m.handleCrashOperation s.own = .ok own →
      Effect s (.operation now operation) ⟨.NOT_OPERATING, now, own⟩

variable {m}

theorem handleMessageWhenDown_ok {name : String} {e : ε} {s s' : Operational σ}
    (h : m.handleMessageWhenDown name e s = .ok s') : m.isSelfMessage e = false ∧ s' = s := by
  unfold handleMessageWhenDown at h
  split at h
  · rename_i hdiscards
    exact ⟨m.discards_other e hdiscards, (Except.ok.inj h).symm⟩
  · split at h
    · cases h
    · rename_i hself
      split at h
      · exact ⟨Bool.eq_false_iff.mpr hself, (Except.ok.inj h).symm⟩
      · cases h

theorem step_effect {s s' : Operational σ} {event : LifecycleEvent ε} (hsettled : Settled s)
    (h : m.Step s event s') : m.Effect s event s' := by
  obtain ⟨hcan, hhandle⟩ := h
  cases event with
  | message name e =>
    obtain ⟨state, lastChange, own⟩ := s
    rcases hsettled with hup | hdown
    · obtain rfl : state = .OPERATING := hup
      obtain ⟨next, hnext, hs⟩ := bind_eq_ok.mp hhandle
      obtain rfl := Except.ok.inj hs
      exact .whenUp rfl hcan hnext
    · obtain rfl : state = .NOT_OPERATING := hdown
      obtain ⟨hself, rfl⟩ := handleMessageWhenDown_ok hhandle
      rw [m.arrive_other own e hself]
      exact .whenDown rfl hself
  | operation now operation =>
    obtain ⟨_, haccepts⟩ := hcan
    cases operation with
    | ModuleStartOperation =>
      obtain ⟨own, hown, hs⟩ := bind_eq_ok.mp hhandle
      obtain rfl := Except.ok.inj hs
      exact .start haccepts hown
    | ModuleStopOperation =>
      obtain ⟨own, hown, hs⟩ := bind_eq_ok.mp hhandle
      obtain rfl := Except.ok.inj hs
      exact .takenDown haccepts rfl (Or.inl hown)
    | ModuleCrashOperation =>
      obtain ⟨own, hown, hs⟩ := bind_eq_ok.mp hhandle
      obtain rfl := Except.ok.inj hs
      exact .takenDown haccepts rfl (Or.inr hown)

theorem settled_step {s s' : Operational σ} {event : LifecycleEvent ε} (hsettled : Settled s)
    (h : m.Step s event s') : Settled s' := by
  cases step_effect hsettled h with
  | whenUp => exact hsettled
  | whenDown => exact hsettled
  | start => exact Or.inl rfl
  | takenDown => exact Or.inr rfl

/-- Out of a state in which the module is idle if it is down, a step leads to such a state again
exactly if it does not take a busy module down. -/
theorem idleWhenDown_step (hkeep : m.CancelsNothing) {s s' : Operational σ}
    {event : LifecycleEvent ε} (hsettled : Settled s) (hidle : m.IdleWhenDown s)
    (h : m.Step s event s') : m.IdleWhenDown s' ↔ m.TakenDownIdle s event := by
  cases step_effect hsettled h with
  | whenUp hup =>
    refine iff_of_true ?_ (fun h => by cases h)
    intro hdown
    cases hup.symm.trans hdown
  | whenDown => exact iff_of_true hidle (fun h => by cases h)
  | start => exact iff_of_true (fun h => by cases h) (fun h => by cases h)
  | takenDown _ htakes hown =>
    have hsame : m.arrivals _ = m.arrivals s.own :=
      hown.elim (hkeep.stop s.own _) (hkeep.crash s.own _)
    simp only [IdleWhenDown, TakenDownIdle, htakes, forall_true_left, hsame]

/-- In a state in which it is down and idle, no self message can arrive. -/
theorem not_due_of_idle {s : Operational σ} (hidle : m.IdleWhenDown s)
    (hdown : s.operationalState = .NOT_OPERATING) {e : ε} (hself : m.isSelfMessage e = true) :
    ¬ m.Due s.own e := by
  intro hdue
  have hmem := m.due_scheduled s.own e hself hdue
  rw [hidle hdown] at hmem
  cases hmem

theorem settled_of_init {now : Int} {up : Bool} {own : σ} {s : Operational σ}
    (h : m.initModule now up own = .ok s) (hown : m.arrivals own = []) :
    Settled s ∧ m.IdleWhenDown s := by
  unfold initModule at h
  cases up with
  | true =>
    obtain ⟨started, _, hs⟩ := bind_eq_ok.mp h
    obtain rfl := Except.ok.inj hs
    refine ⟨Or.inl rfl, ?_⟩
    intro hdown
    cases hdown
  | false =>
    obtain rfl := Except.ok.inj h
    exact ⟨Or.inr rfl, fun _ => hown⟩

section Runs
variable {now : Int} {up : Bool} {own : σ} {s t : Operational σ}
  {path : List (Operational σ × LifecycleEvent ε × Operational σ)}
  (hown : m.arrivals own = []) (hinit : m.initModule now up own = .ok s)
  (hrun : Run m.Step s path t)
include hown hinit hrun

/-- The runs that never leave a self message behind are those that take the module down only
while it is idle. -/
theorem idleWhenDown_iff (hkeep : m.CancelsNothing) :
    (∀ a event b, (a, event, b) ∈ path → m.IdleWhenDown b) ↔
      ∀ a event b, (a, event, b) ∈ path → m.TakenDownIdle a event :=
  hrun.visits_iff_guarded (I := Settled) (settled_of_init hinit hown).1
    (settled_of_init hinit hown).2 (fun _ _ _ => settled_step)
    fun _ _ _ => idleWhenDown_step hkeep

theorem idleWhenDown_run (hkeep : m.CancelsNothing)
    (hguard : ∀ a event b, (a, event, b) ∈ path → m.TakenDownIdle a event) :
    m.IdleWhenDown t :=
  hrun.invariant_of_guard (I := Settled) (settled_of_init hinit hown).1
    (settled_of_init hinit hown).2 (fun _ _ _ => settled_step)
    (fun _ _ _ hsettled hidle hstep => (idleWhenDown_step hkeep hsettled hidle hstep).mpr) hguard

end Runs

end OperationalModule
end SpaceVeins
