import Cryptoki.Proofs.Host.Issuing

/-!
The handles that are issued in a run, and slots that are opened for a while only.

One access issues a handle for a slot, and only the operations that open a slot make it. A slot
that is closed again leaves the registry as it was: each handle finds what it found before, and
there is room for another slot, since the entry is used again.
-/

namespace Cryptoki

open Process Program

/-! ### Handles that are issued -/

/-- The handle that was issued, if a slot was registered. -/
def Deed.issued? : Deed → Option Handle
  | .accessed (.insertSlot _) s => some s
  | _ => none

namespace Program

variable {α β σ : Type} {env : Environment σ} {w : World σ}

/-- The handles for slots that a run was issued, in their order. -/
def issued (env : Environment σ) (p : Program α) (w : World σ) : List Handle :=
  (p.deeds env w).filterMap Deed.issued?

@[simp] lemma issued_pure (env : Environment σ) (a : α) (w : World σ) :
    (pure a : Program α).issued env w = [] := rfl

@[simp] lemma issued_bind (env : Environment σ) (p : Program α) (f : α → Program β)
    (w : World σ) : (p >>= f).issued env w =
      p.issued env w ++ (f (p.run env w).1).issued env (p.run env w).2 := by
  rw [issued, deeds_bind, List.filterMap_append]
  rfl

/-- The program registers no slot. -/
abbrev IssuesNothing (p : Program α) : Prop :=
  p.Within (fun a => ∀ k, a ≠ .insertSlot k) fun _ => True

lemma IssuesNothing.issued_eq_nil {p : Program α} (hp : p.IssuesNothing) : p.issued env w = [] := by
  refine List.filterMap_eq_nil_iff.mpr fun d hd => ?_
  have hwithin := hp.deeds env w d hd
  cases d with
  | asked r x => rfl
  | accessed a x =>
    cases a with
    | insertSlot k => exact absurd rfl (hwithin k)
    | _ => rfl

end Program

/-! ### Slots that come and go -/

namespace Handle.Table

variable {α : Type} {t : Table α} {h : Handle}

/-- What is stored and taken out again makes no difference. -/
lemma Sound.find?_insert_remove (ht : Sound t) (a : α)
    (room : (t.insert a).2.entries.size ≤ capacity) (k : Handle) :
    ((t.insert a).2.remove (t.insert a).1).2.find? k = t.find? k := by
  rw [find?_remove, ht.find?_insert a room]
  split_ifs with hk
  · rw [hk, ht.find?_insert_fst a room]
  · rfl

/-- The entry of what was taken out is used next. -/
lemma size_insert_remove {a : α} (hf : t.find? h = some a) (b : α) :
    ((t.remove h).2.insert b).2.entries.size = t.entries.size := by
  have hvacant : (t.remove h).2.vacant ≠ [] := by simp [remove, hf]
  rw [size_entries_insert, if_neg hvacant, size_entries_remove]
  rfl

end Handle.Table

/-! ### Operations that issue handles and others -/

namespace Module

variable {α : Type} {m : Module} {p : Program α}

lemma Looks.issuesNothing (hp : m.Looks p) : p.IssuesNothing :=
  hp.mono (fun _ ha => ha.elim) fun _ _ => trivial

lemma issuesNothing_release (m : Module) : m.release.IssuesNothing := by
  refine within_bind (within_touch.mpr fun k hk => by cases hk) fun last => ?_
  split_ifs
  · refine (ends_tearDown m).mono ?_ fun _ _ => trivial
    rintro a (rfl | rfl | rfl) k hk <;> cases hk
  · exact within_pure _

end Module

namespace Host

variable {α σ : Type} {env : Environment σ} {w : World σ} {h s : Handle}

lemma issuesNothing_withModule {body : Module → Program (Except Fault α)}
    (hbody : ∀ m, (body m).IssuesNothing) : (withModule h body).IssuesNothing := by
  refine within_bind (within_touch.mpr fun k hk => by cases hk) fun found => ?_
  rcases found with f | m
  · exact within_pure _
  · exact within_bind (hbody m) fun r => within_bind m.issuesNothing_release fun _ => within_pure _

lemma issuesNothing_withSlot {body : Module → SlotId → Program (Except Fault α)}
    (hbody : ∀ m id, (body m id).IssuesNothing) : (withSlot h s body).IssuesNothing := by
  refine issuesNothing_withModule fun m => within_bind ?_ fun found => ?_
  · refine within_bind (within_touch.mpr fun k hk => by cases hk) fun found => ?_
    rcases found with f | k
    · exact within_pure _
    · dsimp only
      split_ifs
      · exact within_pure _
      · exact within_pure _
  · rcases found with f | id
    · exact within_pure _
    · exact hbody m id

lemma issuesNothing_slotList (h : Handle) (tokenPresent : Bool) :
    (slotList h tokenPresent).IssuesNothing :=
  issuesNothing_withModule fun m => (m.looks_slotList tokenPresent).issuesNothing

lemma issuesNothing_slotInfo (h s : Handle) : (slotInfo h s).IssuesNothing :=
  issuesNothing_withSlot fun m id => (m.looks_slotInfo id).issuesNothing

lemma issuesNothing_tokenInfo (h s : Handle) : (tokenInfo h s).IssuesNothing :=
  issuesNothing_withSlot fun m id => (m.looks_tokenInfo id).issuesNothing

lemma issuesNothing_closeSlot (h s : Handle) : (closeSlot h s).IssuesNothing := by
  refine within_bind (issuesNothing_withSlot fun _ _ => within_pure _) fun found => ?_
  rcases found with f | _
  · exact within_pure _
  · refine within_bind (within_touch.mpr fun k hk => by cases hk) fun gone => ?_
    rcases gone with f | slot
    · exact within_pure _
    · exact within_pure _

/-- The one handle that is issued is the answer. -/
lemma issued_openSlot {id : SlotId} (hs : ((openSlot h id).run env w).1 = .ok s) :
    (openSlot h id).issued env w = [s] := by
  have hlook : (withModule h (·.slotInfo id)).IssuesNothing :=
    issuesNothing_withModule fun m => (m.looks_slotInfo id).issuesNothing
  rw [openSlot, run_bind] at hs
  rw [openSlot, issued_bind, hlook.issued_eq_nil]
  generalize (withModule h (·.slotInfo id)).run env w = r at hs ⊢
  obtain ⟨f | info, v⟩ := r
  · cases hs
  · cases hs
    rfl

end Host

end Cryptoki
