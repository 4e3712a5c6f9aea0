import Cryptoki.Proofs.Process.References

/-!
What the operations on a module reach: its own sessions and its own library.

None of them looks at a registry, at another module, or at who refers to the module. So they are
neutral, and whoever holds a reference may run them. Those on slots and tokens leave the process
alone altogether.
-/

namespace Cryptoki

/-- Accesses to the sessions of one module. -/
def Process.Access.SessionsOf (m : ModuleId) : Process.Access → Prop
  | .sessions j _ => j = m
  | _ => False

/-- A call of a library that has been initialized and is to stay so: one that has to do with its
slots or its sessions. -/
def Call.Ordinary : Call → Prop
  | .getFunctionList _ | .init _ | .finalize _ | .getInfo _ => False
  | _ => True

/-- A call that looks at the slots of a library and at the tokens in them. -/
def Call.Looking : Call → Prop
  | .getSlotList .. | .getSlotInfo .. | .getTokenInfo .. | .waitForSlotEvent .. => True
  | _ => False

lemma Call.Looking.ordinary {c : Call} (hc : c.Looking) : c.Ordinary := by
  cases c <;> trivial

/-- Ordinary calls of one library, and waiting. -/
def Request.CallsOf (m : ModuleId) : Request → Prop
  | .call j c => j = m ∧ c.Ordinary
  | .sleep => True
  | _ => False

/-- Looking at the slots of one library, and waiting. -/
def Request.LooksAt (m : ModuleId) : Request → Prop
  | .call j c => j = m ∧ c.Looking
  | .sleep => True
  | _ => False

lemma Request.LooksAt.calls {m : ModuleId} {r : Request} (hr : r.LooksAt m) : r.CallsOf m := by
  cases r with
  | call j c => exact ⟨hr.1, hr.2.ordinary⟩
  | _ => exact hr

lemma Process.Access.SessionsOf.neutral {m : ModuleId} {a : Process.Access}
    (ha : a.SessionsOf m) : a.Neutral := by
  cases a <;> simp_all [SessionsOf, Neutral]

namespace Module

open Program

variable {α : Type}

/-- The program looks at the slots of the module, and does nothing to the process. -/
abbrev Looks (m : Module) (p : Program α) : Prop :=
  p.Within (fun _ => False) (Request.LooksAt m.id)

/-- The program reaches no further than the sessions and the library of the module. -/
abbrev Owns (m : Module) (p : Program α) : Prop :=
  p.Within (Process.Access.SessionsOf m.id) (Request.CallsOf m.id)

/-- The program reaches no further than the library of the module, the sessions and the registry of
slots. -/
abbrev Reaches (m : Module) (p : Program α) : Prop :=
  p.Within Process.Access.Neutral (Request.CallsOf m.id)

lemma Looks.owns {m : Module} {p : Program α} (h : m.Looks p) : m.Owns p :=
  h.mono (fun _ ha => ha.elim) fun _ hr => hr.calls

lemma Owns.reaches {m : Module} {p : Program α} (h : m.Owns p) : m.Reaches p :=
  h.mono (fun _ ha => ha.neutral) fun _ hr => hr

lemma Reaches.neutral {m : Module} {p : Program α} (h : m.Reaches p) : p.Neutral :=
  h.mono (fun _ ha => ha) fun _ _ => trivial

lemma Owns.neutral {m : Module} {p : Program α} (h : m.Owns p) : p.Neutral := h.reaches.neutral

/-- Whoever only looks leaves the process as it is. -/
lemma Looks.run_process {σ : Type} {m : Module} {p : Program α} (h : m.Looks p)
    (env : Environment σ) (w : World σ) : (p.run env w).2.process = w.process :=
  h.run_keeps (P := fun q => q = w.process) env (fun _ _ ha _ => ha.elim) w rfl

lemma looks_pure (m : Module) (a : α) : m.Looks (pure a) := trivial

lemma looks_call (m : Module) (c : Call) (hc : c.Looking) : m.Looks (call m.id c) :=
  within_call.mpr ⟨rfl, hc⟩

lemma looks_say (m : Module) (l : Log.Level) (s : Log.Source) (t : String) :
    m.Looks (say l s t) := trivial

/-! ### Slots -/

lemma looks_fetchSlots (m : Module) (flag : UInt8) (attempts : ℕ) :
    m.Looks (m.fetchSlots flag attempts) := by
  induction attempts with
  | zero => exact looks_pure _ _
  | succ attempts ih =>
    refine within_bind (looks_call _ _ trivial) fun counted => ?_
    split_ifs
    · exact looks_pure _ _
    refine within_bind (looks_call _ _ trivial) fun filled => ?_
    split_ifs
    · exact looks_pure _ _
    · exact within_bind (looks_say _ _ _ _) fun _ => ih
    · exact looks_pure _ _

lemma looks_slotList (m : Module) (tokenPresent : Bool) : m.Looks (m.slotList tokenPresent) := by
  unfold slotList
  split_ifs
  · exact looks_fetchSlots _ _ _
  · exact looks_fetchSlots _ _ _
  · exact looks_pure _ _

lemma looks_slotInfo (m : Module) (id : SlotId) : m.Looks (m.slotInfo id) := by
  unfold slotInfo
  split_ifs
  · refine within_bind (looks_call _ _ trivial) fun told => ?_
    split_ifs
    · exact looks_pure _ _
    · exact looks_pure _ _
  · exact looks_pure _ _

lemma looks_tokenInfo (m : Module) (id : SlotId) : m.Looks (m.tokenInfo id) := by
  unfold tokenInfo
  split_ifs
  · refine within_bind (looks_call _ _ trivial) fun told => ?_
    split_ifs
    · exact looks_pure _ _
    · exact looks_pure _ _
  · exact looks_pure _ _

lemma looks_firstLabelled (m : Module) (label : String) (ids : List SlotId) :
    m.Looks (m.firstLabelled label ids) := by
  induction ids with
  | nil => exact looks_pure _ _
  | cons id rest ih =>
    refine within_bind (looks_tokenInfo _ _) fun told => ?_
    rcases told with f | info
    · dsimp only
      split_ifs
      · exact ih
      · exact looks_pure _ _
    · dsimp only
      split_ifs
      · exact looks_pure _ _
      · exact ih

lemma looks_findSlot (m : Module) (label : String) : m.Looks (m.findSlot label) := by
  refine within_bind (looks_slotList _ _) fun listed => ?_
  rcases listed with f | ids
  · exact looks_pure _ _
  · exact looks_firstLabelled _ _ _

lemma looks_poll (m : Module) (patience : ℕ) : m.Looks (m.poll patience) := by
  induction patience with
  | zero => exact looks_pure _ _
  | succ patience ih =>
    refine within_bind (within_ask.mpr trivial) fun _ => ?_
    refine within_bind (looks_slotList _ _) fun listed => ?_
    rcases listed with f | _ | ⟨id, rest⟩
    · exact looks_pure _ _
    · exact ih
    · exact within_bind (looks_say _ _ _ _) fun _ => looks_pure _ _

lemma looks_waitForSlot (m : Module) (patience : ℕ) : m.Looks (m.waitForSlot patience) := by
  have hpoll : m.Looks (m.pollInstead patience) :=
    within_bind (looks_say _ _ _ _) fun _ => looks_poll _ _
  unfold waitForSlot
  split_ifs
  · refine within_bind (looks_call _ _ trivial) fun event => ?_
    split_ifs
    · exact within_bind (looks_say _ _ _ _) fun _ => looks_pure _ _
    · exact hpoll
    · exact looks_pure _ _
  · exact hpoll

lemma owns_slotList (m : Module) (tokenPresent : Bool) : m.Owns (m.slotList tokenPresent) :=
  (looks_slotList m tokenPresent).owns

lemma owns_slotInfo (m : Module) (id : SlotId) : m.Owns (m.slotInfo id) :=
  (looks_slotInfo m id).owns

lemma owns_tokenInfo (m : Module) (id : SlotId) : m.Owns (m.tokenInfo id) :=
  (looks_tokenInfo m id).owns

lemma owns_findSlot (m : Module) (label : String) : m.Owns (m.findSlot label) :=
  (looks_findSlot m label).owns

lemma owns_waitForSlot (m : Module) (patience : ℕ) : m.Owns (m.waitForSlot patience) :=
  (looks_waitForSlot m patience).owns

/-! ### Sessions -/

/-- The program asks this one thing of the library of the module, if anything, and accesses its
sessions. -/
abbrev Asks (m : Module) (c : Call) (p : Program α) : Prop :=
  p.Within (Process.Access.SessionsOf m.id) fun r => r = .call m.id c

lemma Asks.owns {m : Module} {c : Call} {p : Program α} (h : m.Asks c p) (hc : c.Ordinary) :
    m.Owns p :=
  h.mono (fun _ ha => ha) fun r hr => by
    subst hr
    exact ⟨rfl, hc⟩

/-- The flags of a session to be opened: it is serial, and on demand it may write. -/
def sessionFlags (readWrite : Bool) : Flags :=
  if readWrite then serialSession ||| readWriteSession else serialSession

lemma asks_openSession (m : Module) (slot : SlotId) (readWrite : Bool) :
    m.Asks (.openSession slot (sessionFlags readWrite) false false true)
      (m.openSession slot readWrite) := by
  refine within_bind (within_call.mpr rfl) fun opened => ?_
  split_ifs
  · exact within_pure _
  dsimp only
  split_ifs
  · exact within_pure _
  · refine within_bind (within_touch.mpr rfl) fun _ => ?_
    exact within_bind (within_say _ _ _) fun _ => within_pure _

lemma asks_closeSession (m : Module) (slot : SlotId) (session : SessionId) :
    m.Asks (.closeSession session) (m.closeSession slot session) := by
  refine within_bind (within_touch.mpr rfl) fun known => ?_
  split_ifs
  · refine within_bind (within_call.mpr rfl) fun code => ?_
    split_ifs
    · exact within_say _ _ _
    · exact within_say _ _ _
  · exact within_say _ _ _

lemma asks_login (m : Module) (slot : SlotId) (session : SessionId) (user : User)
    (secret : Option Bytes) :
    m.Asks (.login session user.code (pinOf secret) (UInt64.ofNat ((pinOf secret).getD []).length))
      (m.login slot session user secret) := by
  refine within_bind (within_touch.mpr rfl) fun known => ?_
  split_ifs
  · exact within_pure _
  refine within_bind (within_call.mpr rfl) fun code => ?_
  split_ifs
  · exact within_pure _
  · refine within_bind (within_touch.mpr rfl) fun _ => ?_
    exact within_bind (within_say _ _ _) fun _ => within_pure _

lemma asks_logout (m : Module) (slot : SlotId) (session : SessionId) :
    m.Asks (.logout session) (m.logout slot session) := by
  refine within_bind (within_touch.mpr rfl) fun known => ?_
  split_ifs
  · exact within_say _ _ _
  · refine within_bind (within_call.mpr rfl) fun code => ?_
    split_ifs
    · exact within_bind (within_say _ _ _) fun _ => within_touch.mpr rfl
    · exact within_touch.mpr rfl

lemma owns_openSession (m : Module) (slot : SlotId) (readWrite : Bool) :
    m.Owns (m.openSession slot readWrite) := (asks_openSession m slot readWrite).owns trivial

lemma owns_closeSession (m : Module) (slot : SlotId) (session : SessionId) :
    m.Owns (m.closeSession slot session) := (asks_closeSession m slot session).owns trivial

lemma owns_login (m : Module) (slot : SlotId) (session : SessionId) (user : User)
    (secret : Option Bytes) : m.Owns (m.login slot session user secret) :=
  (asks_login m slot session user secret).owns trivial

lemma owns_logout (m : Module) (slot : SlotId) (session : SessionId) :
    m.Owns (m.logout slot session) := (asks_logout m slot session).owns trivial

lemma owns_sessionState (m : Module) (slot : SlotId) (session : SessionId) :
    m.Owns (m.sessionState slot session) :=
  within_bind (within_touch.mpr rfl) fun _ => within_pure _

lemma owns_openSessions (m : Module) : m.Owns m.openSessions := within_touch.mpr rfl

/-! ### All of them -/

/-- What can be done with a module. -/
inductive Method where
  | slotList (tokenPresent : Bool)
  | slotInfo (id : SlotId)
  | tokenInfo (id : SlotId)
  | findSlot (label : String)
  | waitForSlot (patience : ℕ)
  | openSession (slot : SlotId) (readWrite : Bool)
  | closeSession (slot : SlotId) (session : SessionId)
  | login (slot : SlotId) (session : SessionId) (user : User) (secret : Option Bytes)
  | logout (slot : SlotId) (session : SessionId)
  | sessionState (slot : SlotId) (session : SessionId)
  | openSessions
  deriving DecidableEq, Repr

@[reducible] def Method.Answer : Method → Type
  | .slotList _ => Except Fault (List SlotId)
  | .slotInfo _ => Except Fault SlotInfo
  | .tokenInfo _ => Except Fault TokenInfo
  | .findSlot _ | .waitForSlot _ => Except Fault (Option SlotId)
  | .openSession .. => Except Fault SessionId
  | .closeSession .. | .logout .. => Unit
  | .login .. => Except Fault Unit
  | .sessionState .. => Option SessionState
  | .openSessions => List SessionInfo

def Method.program (m : Module) : (o : Method) → Program o.Answer
  | .slotList tokenPresent => m.slotList tokenPresent
  | .slotInfo id => m.slotInfo id
  | .tokenInfo id => m.tokenInfo id
  | .findSlot label => m.findSlot label
  | .waitForSlot patience => m.waitForSlot patience
  | .openSession slot readWrite => m.openSession slot readWrite
  | .closeSession slot session => m.closeSession slot session
  | .login slot session user secret => m.login slot session user secret
  | .logout slot session => m.logout slot session
  | .sessionState slot session => m.sessionState slot session
  | .openSessions => m.openSessions

theorem owns_method (m : Module) (o : Method) : m.Owns (o.program m) := by
  cases o with
  | slotList tokenPresent => exact owns_slotList m tokenPresent
  | slotInfo id => exact owns_slotInfo m id
  | tokenInfo id => exact owns_tokenInfo m id
  | findSlot label => exact owns_findSlot m label
  | waitForSlot patience => exact owns_waitForSlot m patience
  | openSession slot readWrite => exact owns_openSession m slot readWrite
  | closeSession slot session => exact owns_closeSession m slot session
  | login slot session user secret => exact owns_login m slot session user secret
  | logout slot session => exact owns_logout m slot session
  | sessionState slot session => exact owns_sessionState m slot session
  | openSessions => exact owns_openSessions m

end Module

end Cryptoki
