import Cryptoki.Proofs.Host.Issuing
import Cryptoki.Proofs.Settings.Merging
import Cryptoki.Proofs.Text.Padding

/-!
Labels that a token can have.

Settings are refused if their label does not fit into the field where a token has its own. What is
read of such a field has no zero character and no blank at its end, so there are labels that fit and
that no token has all the same. They are not refused, and a slot is never found by them. All other
labels that fit are those of some token, and a slot is found by them.
-/

namespace Cryptoki

open Program

/-- The label as a token tells it, whatever padding its field has. -/
def Borne (label : String) : Prop :=
  ∃ field : Bytes, field.length = Record.labelSize ∧ Text.Padded.read field = label

/-- Some library that a host has loaded has a slot that is found by the label. -/
def Findable (label : String) : Prop :=
  ∃ (σ : Type) (env : Environment σ) (start : σ) (steps : List (Host.Step σ)) (h : Handle)
    (m : Module) (id : SlotId),
    let w := ((Host.Site.initial start).after env steps).world
    w.process.modules.find? h = some m ∧ ((m.findSlot label).run env w).1 = .ok (some id)

/-- Nothing in the label can be taken for the end of its field, or for padding. -/
structure Unpadded (label : String) : Prop where
  zero : '\x00' ∉ label.toList
  blank : label.toList.getLast? ≠ some ' '

variable {σ : Type} {label : String}

lemma unpadded_read (field : Bytes) : Unpadded (Text.Padded.read field) :=
  ⟨Text.Padded.zero_notMem_read field, Text.Padded.getLast?_read field⟩

lemma Borne.unpadded (h : Borne label) : Unpadded label := by
  obtain ⟨field, -, rfl⟩ := h
  exact unpadded_read field

lemma Unpadded.borne (h : Unpadded label) (hfits : (Text.utf8 label).length ≤ 32) : Borne label :=
  ⟨Text.Padded.fill Record.labelSize label, Text.Padded.fill_length _ _,
    Text.Padded.read_fill hfits h.zero h.blank⟩

namespace Module

variable {m : Module}

/-- A search that ends at a slot with an answer ends at a token with the label. -/
lemma Stops.unpadded {id found : SlotId} {d : List Deed} {r : Except Fault (Option SlotId)}
    (h : Stops m label id d r) (hr : r = .ok (some found)) : Unpadded label := by
  cases h with
  | bears told hcode hlabel => exact hlabel ▸ unpadded_read _
  | fails told hcode hgone => cases hr
  | lacks hlacks => cases hr

/-- Whatever the library and its state, a label by which a slot is found was read of a field. -/
lemma unpadded_of_findSlot {env : Environment σ} {w : World σ} {id : SlotId}
    (h : ((m.findSlot label).run env w).1 = .ok (some id)) : Unpadded label := by
  obtain ⟨e, -, hlisted⟩ := scanned_findSlot env m label w
  generalize ((m.slotList true).run env w).1 = listed at hlisted
  rw [h] at hlisted
  rcases listed with f | ids
  · cases hlisted.2
  · obtain ⟨-, hnone⟩ | ⟨-, last, -, -, d, -, -, -, hstops⟩ := hlisted
    · cases hnone
    · exact hstops.unpadded rfl

end Module

/-- A library with one token, which was given the label. -/
def labelled (label : String) : Simulated.Behaviour :=
  { Simulated.Behaviour.standard with places := [⟨0, some label⟩] }

lemma Findable.unpadded (h : Findable label) : Unpadded label := by
  obtain ⟨σ, env, start, steps, h, m, id, -, hfound⟩ := h
  exact Module.unpadded_of_findSlot hfound

lemma Unpadded.findable (h : Unpadded label) (hfits : (Text.utf8 label).length ≤ 32) :
    Findable label := by
  refine ⟨Simulated.Timeline, Simulated.environment, Simulated.Timeline.start (labelled label),
    [.call (.load .supplied "libmock.so")], Host.firstHandle, simulated, 0, rfl, ?_⟩
  have htold : (⟨0, some label⟩ : Simulated.Place).told = some label :=
    Simulated.Place.told_eq rfl hfits h.zero h.blank
  have hfew : [(⟨0, some label⟩ : Simulated.Place)].length < UInt64.size := by
    rw [List.length_singleton]
    decide
  have hfound := Module.run_findSlot_simulated (m := simulated)
    (w := Host.stocked (labelled label)) rfl rfl rfl (List.nodup_singleton 0) hfew label
  have hplaces : (Host.stocked (labelled label)).outside.library.behaviour.places =
    [] ++ ⟨0, some label⟩ :: [] := rfl
  rw [hplaces, Simulated.find?_told_append htold (List.forall_mem_nil _)] at hfound
  exact hfound

namespace Settings

/-- **Labels that no token has are not refused.** Settings that are not refused may have any label
that fits into its field. It is the label of some token exactly if it has no zero character and does
not end in a blank, and just these are the labels by which some library lets a slot be found. -/
theorem label_borne_iff {s : Settings} (hverified : s.verify = .ok ())
    (hlabel : s.slot = some (.label label)) :
    (Borne label ↔ Unpadded label) ∧ (Findable label ↔ Unpadded label) := by
  obtain ⟨-, husable⟩ := verify_eq_ok.mp hverified
  obtain ⟨-, hfits⟩ := husable label hlabel
  exact ⟨⟨Borne.unpadded, fun h => h.borne hfits⟩, ⟨Findable.unpadded, fun h => h.findable hfits⟩⟩

/-- Settings for a library and a slot with a label. -/
def selecting (label : String) : Settings :=
  ⟨"libmock.so", some (.label label), none, true, false, .upTo .info, .stderr, "./p11bridge.log",
    "user"⟩

/-- The hypotheses hold of a label with a blank in the middle, which some token has, and of one with
a blank at its end, by which no slot is found. -/
theorem label_borne_iff_of_blank :
    (selecting "My key").verify = .ok () ∧ Borne "My key" ∧ Findable "My key" ∧
      (selecting "key ").verify = .ok () ∧ ¬ Findable "key " := by
  have hverified : (selecting "My key").verify = .ok () := by decide
  have hblank : (selecting "key ").verify = .ok () := by decide
  have hunpadded : Unpadded "My key" := ⟨by decide, by decide⟩
  obtain ⟨hborne, hfindable⟩ := label_borne_iff hverified rfl
  refine ⟨hverified, hborne.mpr hunpadded, hfindable.mpr hunpadded, hblank, fun hfound => ?_⟩
  exact ((label_borne_iff hblank rfl).2.mp hfound).blank (by decide)

/-- A label with a blank at its end is not refused, but whatever is in its field, no token has it.
-/
theorem verified_label_of_no_token :
    (selecting "key ").verify = .ok () ∧ (selecting "key ").slot = some (.label "key ") ∧
      ¬ Borne "key " ∧ ¬ Findable "key " := by
  have hpadded : ¬ Unpadded "key " := fun h => h.blank (by decide)
  exact ⟨by decide, rfl, fun h => hpadded h.unpadded, fun h => hpadded h.unpadded⟩

end Settings

end Cryptoki
