import Cryptoki.Proofs.Program.Runs

/-!
What a run does, deed by deed.

A deed is a request together with what it was answered, or an access to the process likewise. The
deeds of a run are all there is to it: the outside it leaves is the one that gave the answers, and
the log makes no difference to them.
-/

namespace Cryptoki

inductive Deed where
  | asked (request : Request) (answer : request.Answer)
  | accessed (access : Process.Access) (answer : access.Answer)

namespace Deed

def request? : Deed → Option Request
  | .asked r _ => some r
  | .accessed .. => none

/-- It is a request to the outside. -/
def isAsked (d : Deed) : Bool := d.request?.isSome

/-- Deeds that are these requests and nothing else. -/
lemma requests_of_map {d : List Deed} {requests : List Request}
    (h : d.map request? = requests.map some) : d.filterMap request? = requests := by
  have hmap := congrArg (List.filterMap fun r => r) h
  simpa [List.filterMap_map] using hmap

/-- Its request or its access is one of these. -/
def Within (A : Process.Access → Prop) (R : Request → Prop) : Deed → Prop
  | .asked r _ => R r
  | .accessed a _ => A a

/-- What a deed makes of the process. -/
def leave (p : Process) : Deed → Process
  | .asked .. => p
  | .accessed a _ => (a.apply p).2

/-- Requests leave the process as it is. -/
lemma foldl_leave_of_asked {d : List Deed} (hd : ∀ x ∈ d, x.isAsked) (p : Process) :
    d.foldl leave p = p := by
  induction d with
  | nil => rfl
  | cons x d ih =>
    obtain ⟨hx, hrest⟩ := List.forall_mem_cons.mp hd
    cases x with
    | asked r x => exact ih hrest
    | accessed a x => cases hx

end Deed

namespace Program

variable {α β σ : Type}

/-- The deeds of a run, in their order. -/
def deeds (env : Environment σ) : Program α → World σ → List Deed
  | .done _, _ => []
  | .request r next, w =>
    let (x, outside) := env.answer r w.outside
    .asked r x :: (next x).deeds env { w with outside }
  | .access a next, w =>
    let (x, process) := a.apply w.process
    .accessed a x :: (next x).deeds env { w with process }
  | .log l next, w => next.deeds env { w with journal := l :: w.journal }

@[simp] lemma deeds_pure (env : Environment σ) (a : α) (w : World σ) :
    (pure a : Program α).deeds env w = [] := rfl

@[simp] lemma deeds_touch (env : Environment σ) (a : Process.Access) (w : World σ) :
    (touch a).deeds env w = [.accessed a (a.apply w.process).1] := rfl

@[simp] lemma deeds_ask (env : Environment σ) (r : Request) (w : World σ) :
    (ask r).deeds env w = [.asked r (env.answer r w.outside).1] := rfl

@[simp] lemma deeds_call (env : Environment σ) (m : ModuleId) (c : Call) (w : World σ) :
    (call m c).deeds env w = [.asked (.call m c) (env.answer (.call m c) w.outside).1] := rfl

@[simp] lemma deeds_say (env : Environment σ) (l : Log.Level) (s : Log.Source) (t : String)
    (w : World σ) : (say l s t).deeds env w = [] := rfl

@[simp] lemma deeds_bind (env : Environment σ) (p : Program α) (f : α → Program β)
    (w : World σ) : (p >>= f).deeds env w =
      p.deeds env w ++ (f (p.run env w).1).deeds env (p.run env w).2 := by
  show (p.bind f).deeds env w = _
  induction p generalizing w with
  | done a => rfl
  | request r next ih => exact congrArg (_ :: ·) (ih _ _)
  | access a next ih => exact congrArg (_ :: ·) (ih _ _)
  | log l next ih => exact ih _

/-- The requests of a run are those among its deeds. -/
lemma requests_eq (env : Environment σ) (p : Program α) (w : World σ) :
    p.requests env w = (p.deeds env w).filterMap Deed.request? := by
  induction p generalizing w with
  | done a => rfl
  | request r next ih => exact congrArg (r :: ·) (ih _ _)
  | access a next ih => exact ih _ _
  | log l next ih => exact ih _

/-- The accesses among the deeds lead from the process at the beginning to the one at the end. -/
lemma run_process (env : Environment σ) (p : Program α) (w : World σ) :
    (p.run env w).2.process = (p.deeds env w).foldl Deed.leave w.process := by
  induction p generalizing w with
  | done a => rfl
  | request r next ih => exact ih _ _
  | access a next ih => exact ih _ _
  | log l next ih => exact ih _

lemma Within.deeds {A : Process.Access → Prop} {R : Request → Prop} {p : Program α}
    (hp : p.Within A R) (env : Environment σ) (w : World σ) :
    ∀ d ∈ p.deeds env w, d.Within A R := by
  induction p generalizing w with
  | done a => exact fun d hd => absurd hd List.not_mem_nil
  | request r next ih => exact List.forall_mem_cons.mpr ⟨hp.1, ih _ (hp.2 _) _⟩
  | access a next ih => exact List.forall_mem_cons.mpr ⟨hp.1, ih _ (hp.2 _) _⟩
  | log l next ih => exact ih hp _

/-! ### Requests with their answers -/

/-- The requests of a run with what they were answered, in their order. -/
def asked (env : Environment σ) (p : Program α) (w : World σ) : List Deed :=
  (p.deeds env w).filter Deed.isAsked

@[simp] lemma asked_pure (env : Environment σ) (a : α) (w : World σ) :
    (pure a : Program α).asked env w = [] := rfl

@[simp] lemma asked_touch (env : Environment σ) (a : Process.Access) (w : World σ) :
    (touch a).asked env w = [] := rfl

@[simp] lemma asked_ask (env : Environment σ) (r : Request) (w : World σ) :
    (ask r).asked env w = [.asked r (env.answer r w.outside).1] := rfl

@[simp] lemma asked_call (env : Environment σ) (m : ModuleId) (c : Call) (w : World σ) :
    (call m c).asked env w = [.asked (.call m c) (env.answer (.call m c) w.outside).1] := rfl

@[simp] lemma asked_say (env : Environment σ) (l : Log.Level) (s : Log.Source) (t : String)
    (w : World σ) : (say l s t).asked env w = [] := rfl

@[simp] lemma asked_bind (env : Environment σ) (p : Program α) (f : α → Program β)
    (w : World σ) : (p >>= f).asked env w =
      p.asked env w ++ (f (p.run env w).1).asked env (p.run env w).2 := by
  rw [asked, deeds_bind, List.filter_append]
  rfl

lemma requests_eq_asked (env : Environment σ) (p : Program α) (w : World σ) :
    p.requests env w = (p.asked env w).filterMap Deed.request? := by
  rw [requests_eq, asked, List.filterMap_filter]
  refine List.filterMap_congr fun d _ => ?_
  cases d <;> rfl

lemma Within.asked {A : Process.Access → Prop} {R : Request → Prop} {p : Program α}
    (hp : p.Within A R) (env : Environment σ) (w : World σ) :
    ∀ d ∈ p.asked env w, ∃ r x, d = .asked r x ∧ R r := by
  intro d hd
  obtain ⟨hd, hasked⟩ := List.mem_filter.mp hd
  have hwithin := hp.deeds env w d hd
  cases d with
  | asked r x => exact ⟨r, x, rfl, hwithin⟩
  | accessed a x => cases hasked

/-! ### Answers -/

/-- From this outside the requests among the deeds are answered as they were, and lead to that
outside. -/
def Answered (env : Environment σ) : σ → List Deed → σ → Prop
  | s, [], t => t = s
  | s, .asked r x :: d, t => x = (env.answer r s).1 ∧ Answered env (env.answer r s).2 d t
  | s, .accessed _ _ :: d, t => Answered env s d t

lemma answered_deeds (env : Environment σ) (p : Program α) (w : World σ) :
    Answered env w.outside (p.deeds env w) (p.run env w).2.outside := by
  induction p generalizing w with
  | done a => rfl
  | request r next ih =>
    exact ⟨rfl, ih _ { w with outside := (env.answer r w.outside).2 }⟩
  | access a next ih => exact ih _ { w with process := (a.apply w.process).2 }
  | log l next ih => exact ih { w with journal := l :: w.journal }

lemma answered_append {env : Environment σ} {s u : σ} {d e : List Deed} :
    Answered env s (d ++ e) u ↔ ∃ t, Answered env s d t ∧ Answered env t e u := by
  induction d generalizing s with
  | nil => simp [Answered]
  | cons x d ih =>
    cases x with
    | asked r x => simp [Answered, ih, and_assoc]
    | accessed a x => exact ih

/-- Where the deeds lead to depends on the requests among them. -/
lemma Answered.outside_eq {env : Environment σ} {s t : σ} {d : List Deed}
    (h : Answered env s d t) :
    t = (d.filterMap Deed.request?).foldl (fun s r => (env.answer r s).2) s := by
  induction d generalizing s with
  | nil => exact h
  | cons x d ih =>
    cases x with
    | asked r x => exact ih h.2
    | accessed a x => exact ih h

/-- From the same outside the same requests are answered alike. -/
lemma Answered.asked_eq {env : Environment σ} {s t u : σ} {d e : List Deed}
    (hd : Answered env s d t) (he : Answered env s e u)
    (hsame : d.filterMap Deed.request? = e.filterMap Deed.request?) :
    d.filter Deed.isAsked = e.filter Deed.isAsked := by
  induction d generalizing s e with
  | nil =>
    refine (List.filter_eq_nil_iff.mpr fun x hx => ?_).symm
    have hnone := List.filterMap_eq_nil_iff.mp hsame.symm x hx
    simp [Deed.isAsked, hnone]
  | cons x d ih =>
    cases x with
    | accessed a x => exact ih hd he hsame
    | asked r x =>
      induction e with
      | nil => cases hsame
      | cons y e ihe =>
        cases y with
        | accessed a y => exact ihe he hsame
        | asked q y =>
          obtain ⟨rfl, hrest⟩ := List.cons.inj hsame
          obtain ⟨rfl, hd⟩ := hd
          obtain ⟨rfl, he⟩ := he
          exact congrArg (_ :: ·) (ih hd he hrest)

/-- What the answers to some requests keep true of the outside, deeds with only these keep. -/
lemma Answered.keeps {env : Environment σ} {P : σ → Prop} {A : Process.Access → Prop}
    {R : Request → Prop} (hkeep : ∀ r s, R r → P s → P (env.answer r s).2) {s t : σ}
    {d : List Deed} (hd : ∀ x ∈ d, x.Within A R) (h : Answered env s d t) (hs : P s) : P t := by
  induction d generalizing s with
  | nil =>
    cases h
    exact hs
  | cons x d ih =>
    obtain ⟨hx, hrest⟩ := List.forall_mem_cons.mp hd
    cases x with
    | asked r x => exact ih hrest h.2 (hkeep r s hx hs)
    | accessed a x => exact ih hrest h hs

/-! ### Runs that cannot be told apart -/

/-- Programs that cannot be told apart are answered alike. -/
lemma Agree.asked_eq {env : Environment σ} {R : Process → Process → Prop} {p q : Program α}
    {v w : World σ} (h : p.Agree env R q v w) (hout : v.outside = w.outside) :
    p.asked env v = q.asked env w := by
  have hrequests := h.requests
  rw [requests_eq, requests_eq] at hrequests
  have hv := answered_deeds env p v
  rw [hout] at hv
  exact hv.asked_eq (answered_deeds env q w) hrequests

/-- A program does the same in two worlds that have the same outside, whatever is in their logs, if
none of its accesses can tell their processes apart. -/
lemma Within.deeds_eq {A : Process.Access → Prop} {T : Request → Prop}
    {R : Process → Process → Prop} (env : Environment σ) {p : Program α} (hp : p.Within A T)
    (hkeep : ∀ a q r, A a → R q r → (a.apply q).1 = (a.apply r).1 ∧ R (a.apply q).2 (a.apply r).2)
    {v w : World σ} (hout : v.outside = w.outside) (hproc : R v.process w.process) :
    (p.run env v).1 = (p.run env w).1 ∧ p.deeds env v = p.deeds env w ∧
      (p.run env v).2.outside = (p.run env w).2.outside ∧
      R (p.run env v).2.process (p.run env w).2.process := by
  induction p generalizing v w with
  | done a => exact ⟨rfl, rfl, hout, hproc⟩
  | request r next ih =>
    obtain ⟨hanswer, hdeeds, hrest⟩ := ih (env.answer r v.outside).1 (hp.2 _)
      (v := { v with outside := (env.answer r v.outside).2 })
      (w := { w with outside := (env.answer r v.outside).2 }) rfl hproc
    simp only [run, Program.deeds, ← hout]
    exact ⟨hanswer, congrArg _ hdeeds, hrest⟩
  | access a next ih =>
    obtain ⟨hsame, hrel⟩ := hkeep a _ _ hp.1 hproc
    obtain ⟨hanswer, hdeeds, hrest⟩ := ih (a.apply v.process).1 (hp.2 _)
      (v := { v with process := (a.apply v.process).2 })
      (w := { w with process := (a.apply w.process).2 }) hout hrel
    simp only [run, Program.deeds, ← hsame]
    exact ⟨hanswer, congrArg _ hdeeds, hrest⟩
  | log l next ih => exact ih hp hout hproc

end Program

end Cryptoki
