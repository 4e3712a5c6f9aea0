import Cryptoki.Proofs.Host.Operations

/-!
Operations agree with their effects.

Resolving a module takes a reference, and the end of the operation gives it back. In between the
operation runs in a process with one reference more, which it cannot see, and since the registry
has a reference of its own the one given back is not the last.
-/

namespace Cryptoki.Host

open Process Program

variable {α β σ : Type} {env : Environment σ} {h s : Handle} {m : Module} {id : SlotId}
  {w : World σ}

/-- The program answers the fault and does nothing else. -/
def Refuses (env : Environment σ) (w : World σ) (p : Program (Except Fault α)) (f : Fault) : Prop :=
  p.Agree env Same (pure (.error f)) w w

/-! ### Modules -/

lemma resolve_some {τ : Type} {t : Handle.Table τ} {a : τ} (hf : t.find? h = some a) :
    t.resolve h = .ok a := by
  simp [Handle.Table.resolve, hf]

lemma resolve_none {τ : Type} {t : Handle.Table τ} (hf : t.find? h = none) :
    t.resolve h = .error (.staleHandle t.kind h) := by
  simp [Handle.Table.resolve, hf, Handle.Table.stale]

lemma run_hold_eq : (hold h).run env w = ((Access.apply w.process (.resolveModule h)).1,
    { w with process := (Access.apply w.process (.resolveModule h)).2 }) := rfl

@[simp] lemma requests_hold : (hold h).requests env w = [] := rfl

lemma run_hold (hf : w.process.modules.find? h = some m) :
    (hold h).run env w = (.ok m, { w with process := Access.retain w.process m.id }) := by
  simp [run_hold_eq, Access.apply, resolve_some hf]

lemma run_hold_stale (hf : w.process.modules.find? h = none) :
    (hold h).run env w = (.error (.staleHandle w.process.modules.kind h), w) := by
  simp [run_hold_eq, Access.apply, resolve_none hf]

/-- A reference that was lent is given back without the module ending by that. -/
lemma release_agree {v : World σ} (hw : v.Related (Lends (one m.id)) w)
    (halive : 1 ≤ v.process.references m.id) :
    (m.release).Agree env Same (pure ()) w v := by
  have hmore : 1 < w.process.references m.id := by
    rw [references, hw.process.share, one, if_pos rfl]
    exact Nat.lt_succ_of_le halive
  obtain ⟨hrun, hrequests⟩ := Module.run_release_kept env hmore
  refine ⟨rfl, hrequests, ?_⟩
  rw [hrun]
  exact ⟨hw.outside.symm, hw.journal.symm, hw.process.release.symm⟩

lemma withModule_agree {body : Module → Program (Except Fault α)}
    (hf : w.process.modules.find? h = some m) (halive : 1 ≤ w.process.references m.id)
    (hbody : (body m).Neutral) : (withModule h body).Agree env Same (body m) w w := by
  -- The body runs in a world with one reference more, and it is neutral, so it cannot tell.
  set v : World σ := { w with process := Access.retain w.process m.id }
  have hlent : w.Related (Lends (one m.id)) v := ⟨rfl, rfl, lends_retain _ _⟩
  have hagree := hbody.agree env hlent
  have hgiven : (m.release).Agree env Same (pure ()) ((body m).run env v).2
      ((body m).run env w).2 := by
    refine release_agree hagree.world ?_
    rw [(hbody.steady env w).references]
    exact halive
  have hhold : (hold h).run env w = (.ok m, v) := run_hold hf
  refine ⟨?_, ?_, ?_⟩
  · simp only [withModule, run_bind, hhold, run_pure]
    exact hagree.answer.symm
  · simp only [withModule, requests_bind, requests_hold, hhold, requests_pure, hgiven.requests,
      hagree.requests, List.nil_append, List.append_nil]
  · simp only [withModule, run_bind, hhold, run_pure]
    exact hgiven.world

lemma withModule_refuses {body : Module → Program (Except Fault α)}
    (hf : w.process.modules.find? h = none) :
    Refuses env w (withModule h body) (.staleHandle w.process.modules.kind h) := by
  have hhold : (hold h).run env w = _ := run_hold_stale hf
  refine ⟨?_, ?_, ?_⟩
  · simp only [withModule, run_bind, hhold, run_pure]
  · simp only [withModule, requests_bind, requests_hold, hhold, requests_pure, List.nil_append]
  · simp only [withModule, run_bind, hhold, run_pure]
    exact Related.refl w

/-! ### Slots -/

lemma run_slotOf (hs : w.process.slots.find? s = some ⟨id, h⟩) :
    (slotOf h s).run env w = (.ok id, w) := by
  rw [slotOf, run_bind, run_touch]
  simp [Access.apply, resolve_some hs]

lemma run_slotOf_stale (hkind : w.process.slots.kind = "slot")
    (hs : ∀ id, w.process.slots.find? s ≠ some ⟨id, h⟩) :
    (slotOf h s).run env w = (.error (.staleHandle "slot" s), w) := by
  rw [slotOf, run_bind, run_touch]
  rcases hf : w.process.slots.find? s with _ | ⟨id, k⟩
  · simp [Access.apply, resolve_none hf, hkind]
  · have hk : k ≠ h := fun hk => hs id (hk ▸ hf)
    simp [Access.apply, resolve_some hf, hk]

lemma requests_slotOf : (slotOf h s).requests env w = [] := by
  rw [slotOf, requests_bind, run_touch, requests_touch, List.nil_append]
  rcases (Access.apply w.process (.resolveSlot s)).1 with f | k
  · rfl
  · dsimp only
    split_ifs
    · rfl
    · rfl

lemma within_slotOf {R : Request → Prop} : (slotOf h s).Within Access.Neutral R := by
  refine within_bind (within_touch.mpr trivial) fun found => ?_
  rcases found with f | k
  · exact within_pure _
  · dsimp only
    split_ifs
    · exact within_pure _
    · exact within_pure _

lemma within_inSlot {R : Request → Prop} {body : SlotId → Program (Except Fault α)}
    (hbody : ∀ id, (body id).Within Access.Neutral R) :
    Within Access.Neutral R (do
      match ← slotOf h s with
      | .error f => return .error f
      | .ok id => body id) := by
  refine within_bind within_slotOf fun found => ?_
  rcases found with f | id
  · exact within_pure _
  · exact hbody id

lemma withSlot_agree {body : Module → SlotId → Program (Except Fault α)}
    (hf : w.process.modules.find? h = some m) (halive : 1 ≤ w.process.references m.id)
    (hs : w.process.slots.find? s = some ⟨id, h⟩) (hbody : ∀ id, (body m id).Neutral) :
    (withSlot h s body).Agree env Same (body m id) w w := by
  refine (withModule_agree hf halive (within_inSlot hbody)).trans ⟨?_, ?_, ?_⟩
  · rw [run_bind, run_slotOf hs]
  · rw [requests_bind, requests_slotOf, run_slotOf hs]
    rfl
  · rw [run_bind, run_slotOf hs]
    exact Related.refl _

lemma withSlot_refuses_module {body : Module → SlotId → Program (Except Fault α)}
    (hf : w.process.modules.find? h = none) :
    Refuses env w (withSlot h s body) (.staleHandle w.process.modules.kind h) :=
  withModule_refuses hf

lemma withSlot_refuses_slot {body : Module → SlotId → Program (Except Fault α)}
    (hf : w.process.modules.find? h = some m) (halive : 1 ≤ w.process.references m.id)
    (hkind : w.process.slots.kind = "slot")
    (hs : ∀ id, w.process.slots.find? s ≠ some ⟨id, h⟩) (hbody : ∀ id, (body m id).Neutral) :
    Refuses env w (withSlot h s body) (.staleHandle "slot" s) := by
  refine (withModule_agree hf halive (within_inSlot hbody)).trans ⟨?_, ?_, ?_⟩
  · rw [run_bind, run_slotOf_stale hkind hs]
  · rw [requests_bind, requests_slotOf, run_slotOf_stale hkind hs]
    rfl
  · rw [run_bind, run_slotOf_stale hkind hs]
    exact Related.refl _

/-! ### Operations -/

lemma Refuses.bind {p : Program (Except Fault α)} {k : Except Fault α → Program (Except Fault β)}
    {f : Fault} (hp : Refuses env w p f) (hk : k (.error f) = pure (.error f)) :
    Refuses env w (p >>= k) f := by
  have hanswer : (p.run env w).1 = .error f := hp.answer
  have hrequests : p.requests env w = [] := hp.requests
  refine ⟨?_, ?_, ?_⟩
  · rw [run_bind, hanswer, hk, run_pure, run_pure]
  · rw [requests_bind, hanswer, hk, hrequests]
    rfl
  · rw [run_bind, hanswer, hk, run_pure]
    exact hp.world

/-- **On a registered module.** The operation does what its effect does. -/
theorem ModuleOp.agree (o : ModuleOp) (hf : w.process.modules.find? h = some m)
    (halive : 1 ≤ w.process.references m.id) :
    (o.program h).Agree env Same (o.effect h m) w w := by
  cases o with
  | info => exact withModule_agree hf halive (within_pure _)
  | unload =>
    have hremove : (Access.apply w.process (.removeModule h)).1 = .ok m := by
      simp [Access.apply, Handle.Table.remove, hf]
    refine ⟨?_, ?_, ?_⟩
    · rw [program, Host.unload, effect, run_bind, run_bind, run_touch, hremove]
    · rw [program, Host.unload, effect, requests_bind, requests_bind, run_touch, hremove]
    · rw [program, Host.unload, effect, run_bind, run_bind, run_touch, hremove]
      exact Related.refl _
  | slotList tokenPresent =>
    exact withModule_agree hf halive (m.owns_slotList tokenPresent).neutral
  | openSlot id =>
    refine (withModule_agree hf halive (m.owns_slotInfo id).neutral).bind_neutral fun told => ?_
    rcases told with f | info
    · exact within_pure _
    · exact within_bind (neutral_register h id) fun _ => within_pure _
  | openSlotByLabel label =>
    exact withModule_agree hf halive (neutral_effect h m (.openSlotByLabel label) (by simp))
  | waitForSlot patience =>
    refine (withModule_agree hf halive (m.owns_waitForSlot patience).neutral).bind_neutral
      fun event => ?_
    rcases event with f | _ | id
    · exact within_pure _
    · exact within_pure _
    · exact within_bind (neutral_register h id) fun _ => within_pure _
  | openSessions => exact withModule_agree hf halive (neutral_effect h m .openSessions (by simp))

/-- **On a module that is not registered.** The operation refuses. -/
theorem ModuleOp.refuses (o : ModuleOp) (hf : w.process.modules.find? h = none) :
    Refuses env w (o.program h) (.staleHandle w.process.modules.kind h) := by
  cases o with
  | unload =>
    have hremove : Access.apply w.process (.removeModule h) =
        (.error (.staleHandle w.process.modules.kind h), w.process) := by
      simp [Access.apply, Handle.Table.remove, hf, Handle.Table.stale]
    refine ⟨?_, ?_, ?_⟩
    · rw [program, Host.unload, run_bind, run_touch, hremove]
    · rw [program, Host.unload, requests_bind, run_touch, hremove]
      rfl
    · rw [program, Host.unload, run_bind, run_touch, hremove]
      exact Related.refl w
  | openSlot id => exact (withModule_refuses hf).bind rfl
  | waitForSlot patience => exact (withModule_refuses hf).bind rfl
  | _ => exact withModule_refuses hf

/-- All operations but one run their effect between the two lookups and the end. -/
lemma SlotOp.program_eq (o : SlotOp) (ho : o ≠ .close) :
    o.program h s = withSlot h s (o.effect s) := by
  cases o with
  | close => exact absurd rfl ho
  | _ => rfl

lemma closeSlot_agree (hf : w.process.modules.find? h = some m)
    (halive : 1 ≤ w.process.references m.id)
    (hs : w.process.slots.find? s = some ⟨id, h⟩) :
    (closeSlot h s).Agree env Same (SlotOp.close.effect s m id) w w := by
  have hfound : (withSlot h s fun _ _ => pure (.ok ())).Agree env Same
      (pure (.ok ()) : Program (Except Fault Unit)) w w :=
    withSlot_agree hf halive hs fun _ => within_pure _
  have hremove : (Access.apply w.process (.removeSlot s)).1 = .ok ⟨id, h⟩ := by
    simp [Access.apply, Handle.Table.remove, hs]
  rw [closeSlot]
  refine (hfound.bind_neutral fun r => ?_).trans ⟨?_, ?_, ?_⟩
  · rcases r with f | _
    · exact within_pure _
    · refine within_bind (within_touch.mpr trivial) fun gone => ?_
      rcases gone with f | slot
      · exact within_pure _
      · exact within_pure _
  · rw [run_bind, run_pure, run_bind, run_touch, hremove]
    rfl
  · rw [requests_bind, run_pure, requests_bind, run_touch, hremove]
    rfl
  · rw [run_bind, run_pure, run_bind, run_touch, hremove]
    exact Related.refl _

/-- **On a slot of a registered module.** The operation does what its effect does. -/
theorem SlotOp.agree (o : SlotOp) (hf : w.process.modules.find? h = some m)
    (halive : 1 ≤ w.process.references m.id)
    (hs : w.process.slots.find? s = some ⟨id, h⟩) :
    (o.program h s).Agree env Same (o.effect s m id) w w := by
  by_cases ho : o = .close
  · subst ho
    exact closeSlot_agree hf halive hs
  · rw [o.program_eq ho]
    exact withSlot_agree hf halive hs fun id => neutral_effect s m id o

/-- **On a module that is not registered.** The operation refuses and names the module. -/
theorem SlotOp.refuses_module (o : SlotOp) (hf : w.process.modules.find? h = none) :
    Refuses env w (o.program h s) (.staleHandle w.process.modules.kind h) := by
  by_cases ho : o = .close
  · subst ho
    exact (withSlot_refuses_module hf).bind rfl
  · rw [o.program_eq ho]
    exact withSlot_refuses_module hf

/-- **On what is not a slot of the module.** The operation refuses and names the slot. -/
theorem SlotOp.refuses_slot (o : SlotOp) (hf : w.process.modules.find? h = some m)
    (halive : 1 ≤ w.process.references m.id) (hkind : w.process.slots.kind = "slot")
    (hs : ∀ id, w.process.slots.find? s ≠ some ⟨id, h⟩) :
    Refuses env w (o.program h s) (.staleHandle "slot" s) := by
  by_cases ho : o = .close
  · subst ho
    exact (withSlot_refuses_slot hf halive hkind hs fun _ => within_pure _).bind rfl
  · rw [o.program_eq ho]
    exact withSlot_refuses_slot hf halive hkind hs fun id => neutral_effect s m id o

/-! ### Where the books are in order -/

variable {held : List Module}

lemma ModuleOp.agree_or_refuses (env : Environment σ) (hw : Accounted w.process held) (h : Handle)
    (o : ModuleOp) :
    (∃ m, w.process.modules.find? h = some m ∧ (o.program h).Agree env Same (o.effect h m) w w) ∨
      ∃ kind, Refuses env w (o.program h) (.staleHandle kind h) := by
  rcases hf : w.process.modules.find? h with _ | m
  · exact .inr ⟨_, o.refuses hf⟩
  · exact .inl ⟨m, rfl, o.agree hf (hw.alive hf)⟩

lemma SlotOp.agree_or_refuses (env : Environment σ) (hw : Accounted w.process held) (h s : Handle)
    (o : SlotOp) :
    (∃ m id, w.process.modules.find? h = some m ∧ w.process.slots.find? s = some ⟨id, h⟩ ∧
      (o.program h s).Agree env Same (o.effect s m id) w w) ∨
      ∃ kind k, Refuses env w (o.program h s) (.staleHandle kind k) := by
  rcases hf : w.process.modules.find? h with _ | m
  · exact .inr ⟨_, _, o.refuses_module hf⟩
  by_cases hs : ∃ id, w.process.slots.find? s = some ⟨id, h⟩
  · obtain ⟨id, hs⟩ := hs
    exact .inl ⟨m, id, rfl, hs, o.agree hf (hw.alive hf) hs⟩
  · have hnot : ∀ id, w.process.slots.find? s ≠ some ⟨id, h⟩ := fun id hid => hs ⟨id, hid⟩
    exact .inr ⟨_, _, o.refuses_slot hf (hw.alive hf) hw.slots.kind_eq hnot⟩

end Cryptoki.Host
