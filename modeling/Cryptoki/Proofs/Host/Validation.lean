import Cryptoki.Proofs.Host.Run

/-!
Handles are checked exactly, and before anything else happens.

Handles are arbitrary words. Whatever the host did before, an operation on handles that are not
good answers which of them is stale and leaves no other trace, and an operation on good ones does
what its effect does on the module and the slot registered under them.
-/

namespace Cryptoki.Host

open Process

variable {σ : Type}

/-- What an operation on a module has to do with an arbitrary handle. -/
def ModuleOp.Checked (env : Environment σ) (w : World σ) (h : Handle) (o : ModuleOp) : Prop :=
  match w.process.modules.find? h with
  | none => Refuses env w (o.program h) (.staleHandle "module" h)
  | some m => (o.program h).Agree env Same (o.effect h m) w w

/-- What an operation on a slot has to do with arbitrary handles. The module comes first, then the
slot and that it is one of the module. -/
def SlotOp.Checked (env : Environment σ) (w : World σ) (h s : Handle) (o : SlotOp) : Prop :=
  match w.process.modules.find? h, w.process.slots.find? s with
  | none, _ => Refuses env w (o.program h s) (.staleHandle "module" h)
  | some _, none => Refuses env w (o.program h s) (.staleHandle "slot" s)
  | some m, some k =>
    if k.module = h then (o.program h s).Agree env Same (o.effect s m k.id) w w
    else Refuses env w (o.program h s) (.staleHandle "slot" s)

/-- The two registries give out handles that are told apart, and none of them is zero. -/
structure Separate (p : Process) : Prop where
  module_given : ∀ m, (p.modules.insert m).1.tag = moduleTag
  slot_given : ∀ k, (p.slots.insert k).1.tag = slotTag
  module_refused : ∀ s : Handle, s.tag = slotTag → p.modules.find? s = none
  slot_refused : ∀ h : Handle, h.tag = moduleTag → p.slots.find? h = none
  zero_refused : p.modules.find? 0 = none ∧ p.slots.find? 0 = none

variable {env : Environment σ} {w : World σ} {held : List Module}

lemma ModuleOp.checked (hw : Accounted w.process held) (h : Handle) (o : ModuleOp) :
    o.Checked env w h := by
  rcases hf : w.process.modules.find? h with _ | m
  · have hrefuses : Refuses env w (o.program h) _ := o.refuses hf
    rw [hw.modules.kind_eq] at hrefuses
    simpa only [Checked, hf] using hrefuses
  · simpa only [Checked, hf] using o.agree hf (hw.alive hf)

lemma SlotOp.checked (hw : Accounted w.process held) (h s : Handle) (o : SlotOp) :
    o.Checked env w h s := by
  rcases hf : w.process.modules.find? h with _ | m
  · have hrefuses : Refuses env w (o.program h s) _ := o.refuses_module hf
    rw [hw.modules.kind_eq] at hrefuses
    simpa only [Checked, hf] using hrefuses
  have halive := hw.alive hf
  rcases hs : w.process.slots.find? s with _ | ⟨id, k⟩
  · simpa only [Checked, hf, hs] using
      o.refuses_slot hf halive hw.slots.kind_eq fun id => by rw [hs]; simp
  · simp only [Checked, hf, hs]
    split_ifs with hk
    · subst hk
      exact o.agree hf halive hs
    · refine o.refuses_slot hf halive hw.slots.kind_eq fun id => ?_
      rw [hs]
      simp [hk]

lemma separate (hw : Accounted w.process held) : Separate w.process where
  module_given := hw.modules.tag_insert
  slot_given := hw.slots.tag_insert
  module_refused s hs := hw.modules.find?_of_tag_ne (by rw [hs]; decide)
  slot_refused h hh := hw.slots.find?_of_tag_ne (by rw [hh]; decide)
  zero_refused := ⟨hw.modules.find?_of_tag_ne (by decide), hw.slots.find?_of_tag_ne (by decide)⟩

/-- **Validation is exact and comes first.** After any run, every operation on any handles refuses
those that are not good, names the first of them and changes nothing; on good handles it acts on
the module and the slot registered under them. A handle of the other registry is never good, and
neither is zero. -/
theorem checked_after (env : Environment σ) (start : σ) (steps : List (Step σ)) :
    let w := ((Site.initial start).after env steps).world
    (∀ h (o : ModuleOp), o.Checked env w h) ∧ (∀ h s (o : SlotOp), o.Checked env w h s) ∧
      Separate w.process := by
  have hw := Site.accounted_after env (s := .initial start) accounted_initial steps
  exact ⟨fun h o => o.checked hw h, fun h s o => o.checked hw h s, separate hw⟩

end Cryptoki.Host
