import Cryptoki.Proofs.Module.Requests
import Cryptoki.Proofs.Probe.Stages

/-!
How the probe chooses a slot.

A slot is given by its number, by the label of the token in it, or not at all, and then it is the
first that is listed with a token. What is asked of the library decides which it is. Only one slot
is registered in the end, so a handle that is given out is for the slot that was chosen.
-/

namespace Cryptoki

open Process Program

namespace Module

variable {m : Module}

/-- A slot was chosen by its number: the library was asked for it and had it. -/
def Checked (m : Module) (id : SlotId) (d : List Deed) (choice : Except Fault SlotId) : Prop :=
  m.Told .getSlotInfo (.getSlotInfo id true) (fun told => (slotInfoOf id told).map fun _ => id) d
    choice

/-- A slot was chosen by a label: it is the first of those listed with a token whose token bears
it. -/
inductive Labelled (m : Module) (label : String) : List Deed → Except Fault SlotId → Prop
  | unlisted {d : List Deed} {f : Fault} (hlist : m.Listed true d (.error f)) :
      Labelled m label d (.error f)
  | unsearched {ids : List SlotId} {d e : List Deed} {f : Fault}
      (hlist : m.Listed true d (.ok ids)) (hsearch : m.Searched label ids e (.error f)) :
      Labelled m label (d ++ e) (.error f)
  | unfound {ids : List SlotId} {d e : List Deed} (hlist : m.Listed true d (.ok ids))
      (hsearch : m.Searched label ids e (.ok none)) :
      Labelled m label (d ++ e)
        (.error (.invalidArgument ("no PKCS#11 token with label '" ++ label ++ "'")))
  | found {ids : List SlotId} {id : SlotId} {d e : List Deed} (hlist : m.Listed true d (.ok ids))
      (hsearch : m.Searched label ids e (.ok (some id))) : Labelled m label (d ++ e) (.ok id)

end Module

namespace Probe

open Host

/-- The slot that was chosen for a selector, or why there is none. -/
inductive Selected (m : Module) :
    Option SlotSelector → List Deed → Except Failure SlotId → Prop
  | byNumber {id : SlotId} {d : List Deed} {choice : Except Fault SlotId}
      (hcheck : m.Checked id d choice) : Selected m (some (.id id)) d (choice.mapError .fault)
  | byLabel {label : String} {d : List Deed} {choice : Except Fault SlotId}
      (hlabel : m.Labelled label d choice) :
      Selected m (some (.label label)) d (choice.mapError .fault)
  | unlisted {d : List Deed} {f : Fault} (hlist : m.Listed true d (.error f)) :
      Selected m none d (.error (.fault f))
  | tokenless {d : List Deed} (hlist : m.Listed true d (.ok [])) :
      Selected m none d (.error (.other "no slot holds a token"))
  | first {id : SlotId} {rest : List SlotId} {d e : List Deed} {choice : Except Fault SlotId}
      (hlist : m.Listed true d (.ok (id :: rest))) (hcheck : m.Checked id e choice) :
      Selected m none (d ++ e) (choice.mapError .fault)

variable {α σ : Type} {env : Environment σ} {w : World σ} {held : List Module} {h s : Handle}
  {m : Module} {id : SlotId} {p q : Process}

/-- There is a module under the handle, and room for one more slot. -/
structure Ready (held : List Module) (h : Handle) (m : Module) (p : Process) : Prop where
  accounted : Accounted p held
  module : p.modules.find? h = some m
  room : p.slots.entries.size < Handle.Table.capacity

/-- There is a module under the one handle and a slot of it under the other. -/
structure AtSlot (held : List Module) (h s : Handle) (m : Module) (id : SlotId) (p : Process) :
    Prop where
  accounted : Accounted p held
  module : p.modules.find? h = some m
  slot : p.slots.find? s = some ⟨id, h⟩

lemma Ready.same (hp : Ready held h m p) (hsame : Same p q) : Ready held h m q where
  accounted := hp.accounted.books hsame.books
  module := by
    rw [hsame.modules]
    exact hp.module
  room := by
    rw [hsame.slots]
    exact hp.room

lemma AtSlot.same (hp : AtSlot held h s m id p) (hsame : Same p q) : AtSlot held h s m id q where
  accounted := hp.accounted.books hsame.books
  module := by
    rw [hsame.modules]
    exact hp.module
  slot := by
    rw [hsame.slots]
    exact hp.slot

/-- The answer is a handle for the slot that was chosen, or why none was. -/
inductive Placed {ε : Type} (held : List Module) (h : Handle) (m : Module) (p : Process) :
    Except ε SlotId → Except ε Handle → Prop
  | nowhere (f : ε) : Placed held h m p (.error f) (.error f)
  | here {s : Handle} {id : SlotId} (hs : AtSlot held h s m id p) :
      Placed held h m p (.ok id) (.ok s)

lemma Placed.same {ε : Type} {choice : Except ε SlotId} {r : Except ε Handle}
    (hp : Placed held h m p choice r) (hsame : Same p q) : Placed held h m q choice r := by
  cases hp with
  | nowhere f => exact .nowhere f
  | here hs => exact .here (hs.same hsame)

lemma Placed.mapError {ε δ : Type} {choice : Except ε SlotId} {r : Except ε Handle}
    (hp : Placed held h m p choice r) (g : ε → δ) :
    Placed held h m p (choice.mapError g) (r.mapError g) := by
  cases hp with
  | nowhere f => exact .nowhere (g f)
  | here hs => exact .here hs

/-- The program chooses a slot, which is so related to what it asks, and answers a handle for it. -/
def Chooses {ε : Type} (env : Environment σ) (held : List Module) (h : Handle) (m : Module)
    (w : World σ) (C : List Deed → Except ε SlotId → Prop) (p : Program (Except ε Handle)) : Prop :=
  ∃ choice, C (p.asked env w) choice ∧
    Placed held h m (p.run env w).2.process choice (p.run env w).1

/-! ### Parts of a choice -/

variable {C : List Deed → Except Fault SlotId → Prop}

lemma Chooses.agree {p q : Program (Except Fault Handle)} (hq : Chooses env held h m w C q)
    (hagree : p.Agree env Same q w w) : Chooses env held h m w C p := by
  obtain ⟨choice, hchoice, hplaced⟩ := hq
  refine ⟨choice, ?_, ?_⟩
  · rw [hagree.asked_eq rfl]
    exact hchoice
  · rw [hagree.answer]
    exact hplaced.same hagree.world.process.symm

lemma Chooses.attempt {D : List Deed → Except Failure SlotId → Prop}
    {p : Program (Except Fault Handle)} (hp : Chooses env held h m w C p)
    (hD : ∀ d choice, C d choice → D d (choice.mapError .fault)) :
    Chooses env held h m w D (Probe.attempt p fun slot => return .ok slot) := by
  obtain ⟨choice, hchoice, hplaced⟩ := hp
  have hrun : (Probe.attempt p fun slot => return .ok slot).run env w =
      ((p.run env w).1.mapError Failure.fault, (p.run env w).2) := by
    rw [Probe.attempt, run_bind]
    rcases (p.run env w).1 with f | slot <;> rfl
  have hasked : (Probe.attempt p fun slot => return .ok slot).asked env w = p.asked env w := by
    rw [Probe.attempt, asked_bind]
    rcases (p.run env w).1 with f | slot <;> exact List.append_nil _
  refine ⟨choice.mapError .fault, ?_, ?_⟩
  · rw [hasked]
    exact hD _ _ hchoice
  · rw [hrun]
    exact hplaced.mapError _

lemma atSlot_register (env : Environment σ) (id : SlotId) (hw : Ready held h m w.process) :
    AtSlot held h ((register h id).run env w).1 m id ((register h id).run env w).2.process where
  accounted := (neutral_register h id).accounted env hw.accounted
  module := hw.module
  slot := by
    have hfits := Handle.Table.fits_insert hw.room ⟨id, h⟩
    exact (hw.accounted.slots.sound.find?_insert _ hfits _).trans (if_pos rfl)

/-- Looking for a slot and then registering it chooses the one that was found. -/
lemma Ready.chooses (hw : Ready held h m w.process) {p : Program (Except Fault α)}
    (hp : m.Looks p) {k : Except Fault α → Program (Except Fault Handle)}
    (choice : Except Fault α → Except Fault SlotId)
    (hk : ∀ r, k r = match choice r with
      | .error f => return .error f
      | .ok id => do return .ok (← register h id))
    (hchoice : C (p.asked env w) (choice (p.run env w).1)) :
    Chooses env held h m w C (p >>= k) := by
  have hready : Ready held h m (p.run env w).2.process := by
    rw [hp.run_process env w]
    exact hw
  rw [Chooses, run_bind, asked_bind, hk]
  generalize choice (p.run env w).1 = chosen at hchoice ⊢
  rcases chosen with f | id
  · rw [run_pure, asked_pure, List.append_nil]
    exact ⟨_, hchoice, .nowhere f⟩
  · rw [run_bind, asked_bind, run_pure, asked_pure, List.append_nil, register, asked_touch,
      List.append_nil]
    exact ⟨_, hchoice, .here (atSlot_register env id hready)⟩

/-- An operation on the module does what its effect does. -/
lemma Ready.agree (hw : Ready held h m w.process) (o : ModuleOp) :
    (o.program h).Agree env Same (o.effect h m) w w :=
  o.agree hw.module (hw.accounted.alive hw.module)

lemma Ready.openSlot (env : Environment σ) (hw : Ready held h m w.process) (id : SlotId) :
    Chooses env held h m w (m.Checked id) (Host.openSlot h id) := by
  have hchecked : m.Checked id ((m.slotInfo id).asked env w)
      (((m.slotInfo id).run env w).1.map fun _ => id) := by
    obtain ⟨hlacks, hasked, hanswer⟩ | ⟨told, hasked, hanswer⟩ := Module.told_slotInfo env m id w
    · exact .inl ⟨hlacks, hasked, by rw [hanswer]; rfl⟩
    · exact .inr ⟨told, hasked, by rw [hanswer]⟩
  refine Chooses.agree (hw.chooses (m.looks_slotInfo id) (fun r => r.map fun _ => id) ?_ hchecked)
    (hw.agree (.openSlot id))
  rintro (f | info) <;> rfl

/-- The slot that was found for a label. -/
def foundOf (label : String) (r : Except Fault (Option SlotId)) : Except Fault SlotId :=
  r.bind fun
    | none => .error (.invalidArgument ("no PKCS#11 token with label '" ++ label ++ "'"))
    | some id => .ok id

lemma labelled_findSlot (env : Environment σ) (m : Module) (label : String) (w : World σ) :
    m.Labelled label ((m.findSlot label).asked env w)
      (foundOf label ((m.findSlot label).run env w).1) := by
  have hlist := Module.listed_slotList env m true w
  rw [Module.findSlot, run_bind, asked_bind]
  generalize (m.slotList true).asked env w = d at hlist ⊢
  generalize (m.slotList true).run env w = r at hlist ⊢
  obtain ⟨f | ids, v⟩ := r
  · rw [asked_pure, List.append_nil]
    exact .unlisted hlist
  have hsearch := Module.searched_firstLabelled env m label ids v
  dsimp only
  generalize ((m.firstLabelled label ids).run env v).1 = found at hsearch ⊢
  rcases found with f | _ | id
  · exact .unsearched hlist hsearch
  · exact .unfound hlist hsearch
  · exact .found hlist hsearch

lemma Ready.openSlotByLabel (env : Environment σ) (hw : Ready held h m w.process)
    (label : String) :
    Chooses env held h m w (m.Labelled label) (Host.openSlotByLabel h label) := by
  refine Chooses.agree (hw.chooses (m.looks_findSlot label) (foundOf label) ?_
    (labelled_findSlot env m label w)) (hw.agree (.openSlotByLabel label))
  rintro (f | _ | id) <;> rfl

/-- Looking at the slots leaves the module ready. -/
lemma Ready.slotList (env : Environment σ) (hw : Ready held h m w.process)
    (tokenPresent : Bool) :
    m.Listed tokenPresent ((Host.slotList h tokenPresent).asked env w)
        ((Host.slotList h tokenPresent).run env w).1 ∧
      Ready held h m ((Host.slotList h tokenPresent).run env w).2.process := by
  have hagree : (Host.slotList h tokenPresent).Agree env Same (m.slotList tokenPresent) w w :=
    hw.agree (.slotList tokenPresent)
  have hlooks := (m.looks_slotList tokenPresent).run_process env w
  refine ⟨?_, hw.same ?_⟩
  · rw [hagree.asked_eq rfl, hagree.answer]
    exact Module.listed_slotList env m tokenPresent w
  · rw [← hlooks]
    exact hagree.world.process.symm

/-! ### The choice -/

/-- **A handle for the slot that was chosen.** -/
theorem Ready.selectSlot (env : Environment σ) (hw : Ready held h m w.process)
    (selector : Option SlotSelector) :
    Chooses env held h m w (Selected m selector) (Probe.selectSlot h selector) := by
  rcases selector with _ | id | label
  · obtain ⟨hlist, hready⟩ := hw.slotList env true
    rw [Probe.selectSlot, Probe.attempt, Chooses, run_bind, asked_bind]
    generalize (Host.slotList h true).asked env w = d at hlist ⊢
    generalize (Host.slotList h true).run env w = r at hlist hready ⊢
    obtain ⟨f | _ | ⟨id, rest⟩, v⟩ := r
    · rw [run_pure, asked_pure, List.append_nil]
      exact ⟨_, .unlisted hlist, .nowhere _⟩
    · rw [run_pure, asked_pure, List.append_nil]
      exact ⟨_, .tokenless hlist, .nowhere _⟩
    · obtain ⟨choice, hselected, hplaced⟩ := (hready.openSlot env id).attempt
        (D := fun e choice => Selected m none (d ++ e) choice)
        fun e choice hcheck => .first hlist hcheck
      exact ⟨choice, hselected, hplaced⟩
  · exact (hw.openSlot env id).attempt fun d choice hcheck => .byNumber hcheck
  · exact (hw.openSlotByLabel env label).attempt fun d choice hlabel => .byLabel hlabel

end Probe

end Cryptoki
