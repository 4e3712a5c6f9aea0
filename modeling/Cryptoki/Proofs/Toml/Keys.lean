import Cryptoki.Toml.Document
import Mathlib.Data.List.Nodup
import Mathlib.Tactic

/-!
The keys of a document are distinct.

Whatever is put into a table is put under a new key at its end, or in the place of what was under
the key before. So it does not matter in which order the entries of a document are looked at.
-/

namespace Cryptoki.Toml

namespace Entries

/-- No key occurs twice. -/
def Distinct (es : Entries) : Prop := (es.map Prod.fst).Nodup

variable {es es' : Entries} {key : String} {v : Value}

lemma lookup_eq_none_iff : es.lookup key = none ↔ key ∉ es.map Prod.fst := by
  rw [List.lookup_eq_none_iff]
  constructor
  · intro h hmem
    obtain ⟨e, he, rfl⟩ := List.mem_map.mp hmem
    simpa using h e he
  · intro h e he
    simpa using fun hkey : key = e.1 => h (hkey ▸ List.mem_map_of_mem he)

/-- What stands under a key is found there. -/
lemma Distinct.lookup_of_mem (hes : Distinct es) {e : String × Value} (he : e ∈ es) :
    es.lookup e.1 = some e.2 := by
  induction es with
  | nil => exact absurd he List.not_mem_nil
  | cons x es ih =>
    obtain ⟨hx, hrest⟩ := List.nodup_cons.mp hes
    rw [List.lookup_cons]
    rcases List.mem_cons.mp he with rfl | he
    · simp
    · have hne : e.1 ≠ x.1 := fun h => hx (h ▸ List.mem_map_of_mem he)
      rw [beq_false_of_ne hne]
      exact ih hrest he

/-! ### Changes of a table -/

/-- A new key may come at the end. -/
lemma Distinct.snoc (hes : Distinct es) (hkey : es.lookup key = none) (v : Value) :
    Distinct (es ++ [(key, v)]) := by
  have hnew : key ∉ es.map Prod.fst := lookup_eq_none_iff.mp hkey
  rw [Distinct, List.map_append, List.nodup_append]
  refine ⟨hes, List.nodup_singleton key, ?_⟩
  rintro a ha b hb rfl
  obtain rfl : a = key := List.mem_singleton.mp hb
  exact hnew ha

lemma Distinct.replace (hes : Distinct es) (key : String) (v : Value) :
    Distinct (replace key v es) := by
  have hkeys : (Entries.replace key v es).map Prod.fst = es.map Prod.fst := by
    rw [Entries.replace, List.map_map]
    refine List.map_congr_left fun e _ => ?_
    rw [Function.comp_apply]
    split_ifs with h
    · exact h.symm
    · rfl
  rw [Distinct, hkeys]
  exact hes

lemma Distinct.erase (hes : Distinct es) (key : String) : Distinct (erase key es) :=
  hes.sublist (List.filter_sublist.map Prod.fst)

lemma lookup_erase (key : String) (es : Entries) : (erase key es).lookup key = none := by
  rw [lookup_eq_none_iff]
  intro h
  obtain ⟨e, he, rfl⟩ := List.mem_map.mp h
  simpa using (List.mem_filter.mp he).2

lemma distinct_nil : Distinct [] := List.nodup_nil

/-- Assigning a value keeps the keys distinct, whatever the path leads through. -/
lemma Distinct.assign (hes : Distinct es) {path : List String}
    (h : assign path key v es = some es') : Distinct es' := by
  rcases path with _ | ⟨p, ps⟩
  · rw [Entries.assign] at h
    split_ifs at h with hkey
    cases h
    exact hes.snoc (Option.not_isSome_iff_eq_none.mp hkey) v
  · rw [Entries.assign] at h
    split at h
    · next hp =>
      obtain ⟨inner, -, rfl⟩ := Option.map_eq_some_iff.mp h
      exact hes.snoc hp _
    · split_ifs at h
      obtain ⟨inner, -, rfl⟩ := Option.map_eq_some_iff.mp h
      exact hes.replace p _
    · split_ifs at h
      obtain ⟨last, -, rfl⟩ := Option.map_eq_some_iff.mp h
      exact hes.replace p _
    · cases h

/-- What every step of a run of changes keeps is kept by the run. -/
lemma foldlM_keeps {α : Type} {f : Entries → α → Option Entries} {P : Entries → Prop}
    (hstep : ∀ es a es', P es → f es a = some es' → P es') {as : List α} {es es' : Entries}
    (hes : P es) (h : as.foldlM f es = some es') : P es' := by
  induction as generalizing es with
  | nil =>
    cases h
    exact hes
  | cons a as ih =>
    rw [List.foldlM_cons] at h
    obtain ⟨mid, hmid, hrest⟩ := Option.bind_eq_some_iff.mp h
    exact ih (hstep es a mid hes hmid) hrest

lemma Distinct.assignAll {as : List Assignment} (hes : Distinct es)
    (h : assignAll as es = some es') : Distinct es' :=
  foldlM_keeps (fun _ _ _ hmid hassign => hmid.assign hassign) hes h

/-- A change far inside a table changes what stands under the first key of the path only. -/
lemma Distinct.within {f : Entries → Option Entries} {path : List String} (hes : Distinct es)
    (hf : ∀ es', f es = some es' → Distinct es') (h : within f path es = some es') :
    Distinct es' := by
  rcases path with _ | ⟨p, ps⟩
  · exact hf es' h
  · rw [Entries.within] at h
    split at h
    · next hp =>
      obtain ⟨inner, -, rfl⟩ := Option.map_eq_some_iff.mp h
      exact hes.snoc hp _
    · cases h
    · obtain ⟨inner, -, rfl⟩ := Option.map_eq_some_iff.mp h
      exact hes.replace p _
    · obtain ⟨last, -, rfl⟩ := Option.map_eq_some_iff.mp h
      exact hes.replace p _
    · cases h

lemma Distinct.define (hes : Distinct es) {as : List Assignment}
    (h : define key as es = some es') : Distinct es' := by
  rw [Entries.define] at h
  split at h
  · next hkey =>
    obtain ⟨inner, -, rfl⟩ := Option.map_eq_some_iff.mp h
    exact hes.snoc hkey _
  · obtain ⟨inner, -, rfl⟩ := Option.map_eq_some_iff.mp h
    exact (hes.erase key).snoc (lookup_erase key es) _
  · cases h

lemma Distinct.extend (hes : Distinct es) {as : List Assignment}
    (h : extend key as es = some es') : Distinct es' := by
  rw [Entries.extend] at h
  split at h
  · next hkey =>
    obtain ⟨last, -, rfl⟩ := Option.map_eq_some_iff.mp h
    exact hes.snoc hkey _
  · obtain ⟨next, -, rfl⟩ := Option.map_eq_some_iff.mp h
    exact hes.replace key _
  · cases h

lemma Distinct.addSection (hes : Distinct es) {s : Section}
    (h : addSection es s = some es') : Distinct es' := by
  rw [Entries.addSection] at h
  refine hes.within (fun mid hmid => ?_) h
  split_ifs at hmid
  · exact hes.extend hmid
  · exact hes.define hmid

end Entries

/-! ### Documents -/

lemma distinct_of_build {top : List Assignment} {sections : List Section} {es : Entries}
    (h : build top sections = some es) : es.Distinct := by
  rw [build] at h
  obtain ⟨first, hfirst, hrest⟩ := Option.bind_eq_some_iff.mp h
  exact Entries.foldlM_keeps (fun _ _ _ hmid hadd => hmid.addSection hadd)
    (Entries.distinct_nil.assignAll hfirst) hrest

/-- **The keys of every document are distinct.** -/
theorem distinct_of_parse {text : String} {d : Document} (h : parse text = some d) :
    d.entries.Distinct := by
  rw [parse] at h
  obtain ⟨ls, -, h⟩ := Option.bind_eq_some_iff.mp h
  obtain ⟨es, hes, hd⟩ := Option.bind_eq_some_iff.mp h
  cases hd
  exact distinct_of_build hes

/-- No key occurs twice in any document that is read. -/
def KeysDistinct (parse : String → Option Document) : Prop :=
  ∀ text d, parse text = some d → d.entries.Distinct

lemma keysDistinct_parse : KeysDistinct parse := fun _ _ => distinct_of_parse

end Cryptoki.Toml
