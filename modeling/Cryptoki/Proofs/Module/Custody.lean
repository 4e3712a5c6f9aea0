import Cryptoki.Proofs.Module.Turns

/-!
Who answers for an open session.

While calls are under way, the table is not all there is to know. A session that the library has
open is tracked, or in the hands of exactly one call, which is about to have it tracked or closed,
or the library has failed to close it. A session is never in two places, because a call takes it
into its hands before the table has it and after the table had it; and what a call has found in the
table stays there until the call is over, because only a call on the same session could take it out.
-/

namespace Cryptoki

open Demand

variable {ι : Type}

/-- Neither of two calls gets in the way of the other: they are not on the same session while both
are under way, and never have the same session in hand. -/
structure Clear (s r : Demand × Phase) : Prop where
  session : s.2 ≠ .over → r.2 ≠ .over → ¬ s.1.SameSession r.1
  hand : ∀ h, s.2.hand? = some h → r.2.hand? ≠ some h

lemma Clear.symm {s r : Demand × Phase} (h : Clear s r) : Clear r s where
  session hr hs hsame := h.session hs hr hsame.symm
  hand g hr hs := h.hand g hs hr

/-- What holds of a call that has come to a phase. -/
structure Stands (t : Sessions) (opened : Set SessionId) (d : Demand) (phase : Phase) : Prop where
  hand : ∀ h, phase.hand? = some h → h ∈ opened ∧ t.tracked.get? h = none
  found : phase = .found → ∀ slot h, d.session? = some (slot, h) → (t.find slot h).isSome

/-- Where the open sessions are while calls stand at their phases. `opened` are those the library
has open, and `failed` those it has failed to close. -/
structure Custody (stand : ι → Demand × Phase) (t : Sessions) (opened failed : Set SessionId) :
    Prop where
  distinct : t.tracked.Distinct
  clear : Pairwise fun i j => Clear (stand i) (stand j)
  stands : ∀ i, Stands t opened (stand i).1 (stand i).2
  tracked : ∀ h k, t.tracked.get? h = some k → h ∈ opened
  logins : ∀ slot user, t.logins.get? slot = some user → ∃ h, (t.find slot h).isSome
  kept : ∀ h ∈ opened, (∃ k, t.tracked.get? h = some k) ∨ (∃ i, (stand i).2.hand? = some h) ∨
    h ∈ failed

variable {stand : ι → Demand × Phase} {t : Sessions} {opened failed : Set SessionId} {i : ι}
  {d : Demand} {phase after : Phase} {slot : SlotId} {session : SessionId}

lemma Stands.of_idle (hhand : phase.hand? = none) (hfound : phase ≠ .found) :
    Stands t opened d phase where
  hand h hh := by
    rw [hhand] at hh
    cases hh
  found hphase := absurd hphase hfound

namespace Custody

/-- Before any call, with no session open. -/
lemma start (d : Demand) (failed : Set SessionId) :
    Custody (fun _ : ι => (d, Phase.over)) .empty ∅ failed where
  distinct := List.nodup_nil
  clear _ _ _ := ⟨fun hover _ => absurd rfl hover, fun h hhand => nomatch hhand⟩
  stands _ := .of_idle rfl (by simp)
  tracked h k hget := by cases hget
  logins slot user hlogin := by cases hlogin
  kept h hmem := absurd hmem (Set.notMem_empty h)

lemma mono (c : Custody stand t opened failed) {more : Set SessionId} (hmore : failed ⊆ more) :
    Custody stand t opened more :=
  { c with kept := fun h hh => (c.kept h hh).imp_right (Or.imp_right fun hf => hmore hf) }

lemma untracked (c : Custody stand t opened failed) {h : SessionId} (hh : h ∉ opened) :
    t.tracked.get? h = none :=
  Option.eq_none_iff_forall_ne_some.mpr fun k hget => hh (c.tracked h k hget)

/-- The other calls on the session of a call under way are over. -/
lemma alone (c : Custody stand t opened failed) (hi : stand i = (d, phase))
    (hphase : phase ≠ .over) :
    ∀ j ≠ i, (stand j).2 ≠ .over → ¬ (stand j).1.SameSession d := by
  intro j hj hover
  have hsession := (c.clear hj).session hover
  rw [hi] at hsession
  exact hsession hphase

/-! ### Logins -/

/-- Only who is logged in changes, and only to slots that have a tracked session. -/
lemma relogs (c : Custody stand t opened failed) {u : Sessions} (htracked : u.tracked = t.tracked)
    (hlogins : ∀ slot user, u.logins.get? slot = some user → ∃ h, (t.find slot h).isSome) :
    Custody stand u opened failed where
  distinct := htracked ▸ c.distinct
  clear := c.clear
  stands j :=
    { hand := htracked ▸ (c.stands j).hand
      found := by
        simp only [Sessions.find_of_tracked htracked]
        exact (c.stands j).found }
  tracked := htracked ▸ c.tracked
  logins := by
    simp only [Sessions.find_of_tracked htracked]
    exact hlogins
  kept := htracked ▸ c.kept

lemma logsIn (c : Custody stand t opened failed) (hfind : (t.find slot session).isSome)
    (user : User) : Custody stand (t.logIn slot user) opened failed := by
  refine c.relogs (t.tracked_logIn slot user) fun other u hlogin => ?_
  rw [Sessions.logins_logIn] at hlogin
  split_ifs at hlogin with hother
  · exact ⟨session, hother.1 ▸ hfind⟩
  · exact c.logins other u hlogin

lemma logsOut (c : Custody stand t opened failed) (slot : SlotId) :
    Custody stand (t.logOut slot) opened failed := by
  refine c.relogs (t.tracked_logOut slot) fun other u hlogin => ?_
  rw [Sessions.logins_logOut] at hlogin
  split_ifs at hlogin
  exact c.logins other u hlogin

/-! ### What stays in the table -/

/-- An access of a call takes no session from the table and changes none, unless the call closes
that very session. -/
lemma keeps {m : ModuleId} {p : Process} (c : Custody stand (p.sessionsOf m) opened failed)
    (hi : stand i = (d, phase)) {a : Process.Access} {x : a.Answer}
    (hturn : d.Turn m phase (.accessed a x) after) {h : SessionId} {k : Tracked}
    (hget : (p.sessionsOf m).tracked.get? h = some k) :
    ((a.apply p).2.sessionsOf m).tracked.get? h = some k ∨ d = .closeSession k.slot h := by
  have hself := c.stands i
  rw [hi] at hself
  cases hturn with
  | tracks slot readWrite session =>
    left
    have hne : h ≠ session := by
      rintro rfl
      rw [(hself.hand h rfl).2] at hget
      cases hget
    rw [Process.sessionsOf_touch, Sessions.Access.apply, Sessions.get?_track, if_neg hne]
    exact hget
  | forgets slot session | ignores slot session =>
    rw [Process.sessionsOf_touch, Sessions.Access.apply]
    rcases hfind : ((p.sessionsOf m).find slot session).isSome with _ | _
    · rw [Sessions.forget_of_isNone hfind]
      exact .inl hget
    · rw [Sessions.get?_forget hfind]
      split_ifs with hsession
      · right
        subst hsession
        rw [Sessions.slot_eq_of_find (Sessions.find_isSome.mpr ⟨_, hget⟩) hfind]
      · exact .inl hget
  | finds _ slot session i hd | strays _ slot session =>
    rw [Process.sessionsOf_touch]
    exact .inl hget
  | notesLogin slot session user secret =>
    rw [Process.sessionsOf_touch, Sessions.Access.apply, Sessions.tracked_logIn]
    exact .inl hget
  | notesLogout slot session =>
    rw [Process.sessionsOf_touch]
    exact .inl hget

end Custody

/-! ### One call goes on -/

variable [DecidableEq ι]

lemma clear_update (hclear : Pairwise fun i j => Clear (stand i) (stand j))
    (hself : ∀ j ≠ i, Clear (stand j) (d, after)) :
    Pairwise fun j k => Clear (Function.update stand i (d, after) j)
      (Function.update stand i (d, after) k) := by
  intro j k hne
  show Clear _ _
  by_cases hj : j = i
  · subst hj
    rw [Function.update_self, Function.update_of_ne hne.symm]
    exact (hself k hne.symm).symm
  rw [Function.update_of_ne hj]
  by_cases hk : k = i
  · subst hk
    rw [Function.update_self]
    exact hself j hj
  · rw [Function.update_of_ne hk]
    exact hclear hne

lemma stands_update {u : Sessions} (hself : Stands u opened d after)
    (hothers : ∀ j ≠ i, Stands u opened (stand j).1 (stand j).2) (j : ι) :
    Stands u opened (Function.update stand i (d, after) j).1
      (Function.update stand i (d, after) j).2 :=
  (Function.forall_update_iff stand fun _ s => Stands u opened s.1 s.2).mpr ⟨hself, hothers⟩ j

/-- What is in the hands of another call stays there. -/
lemma inHand_update {h : SessionId} (hi : (stand i).2.hand? ≠ some h)
    (hhand : ∃ j, (stand j).2.hand? = some h) :
    ∃ j, (Function.update stand i (d, after) j).2.hand? = some h := by
  obtain ⟨j, hj⟩ := hhand
  have hne : j ≠ i := fun heq => hi (heq ▸ hj)
  exact ⟨j, by rwa [Function.update_of_ne hne]⟩

lemma inHand_self {h : SessionId} (hafter : after.hand? = some h) :
    ∃ j, (Function.update stand i (d, after) j).2.hand? = some h :=
  ⟨i, by rwa [Function.update_self]⟩

namespace Custody

/-- A call under way stays clear of the others, unless it takes a session that they have in hand. -/
lemma clears (c : Custody stand t opened failed) (hi : stand i = (d, phase))
    (hphase : phase ≠ .over)
    (hhand : ∀ h, after.hand? = some h → ∀ j ≠ i, (stand j).2.hand? ≠ some h) :
    Pairwise fun j k => Clear (Function.update stand i (d, after) j)
      (Function.update stand i (d, after) k) :=
  clear_update c.clear fun j hj =>
    ⟨fun hover _ => c.alone hi hphase j hj hover, fun h hh hafter => hhand h hafter j hj hh⟩

/-- A call that has no session in hand goes on to a phase in which it has none. -/
lemma moves (c : Custody stand t opened failed) (hbefore : (stand i).2.hand? = none)
    (hafter : after.hand? = none)
    (hclear : ∀ j ≠ i, (stand j).2 ≠ .over → ¬ (stand j).1.SameSession d)
    (hself : Stands t opened d after) :
    Custody (Function.update stand i (d, after)) t opened failed where
  distinct := c.distinct
  clear := by
    refine clear_update c.clear fun j hj => ⟨fun hover _ => hclear j hj hover, fun h _ => ?_⟩
    simp [hafter]
  stands := stands_update hself fun j _ => c.stands j
  tracked := c.tracked
  logins := c.logins
  kept h hh := (c.kept h hh).imp_right (Or.imp_left (inHand_update (by simp [hbefore])))

/-- The library opens a session that was not open. -/
lemma opens (c : Custody stand t opened failed) (hi : stand i = (d, .fresh))
    (hnew : session ∉ opened) :
    Custody (Function.update stand i (d, .toTrack session)) t (insert session opened) failed where
  distinct := c.distinct
  clear := by
    refine c.clears hi (by simp) fun h hh j _ hj => ?_
    cases hh
    exact hnew ((c.stands j).hand _ hj).1
  stands := by
    refine stands_update ⟨fun h hh => ?_, fun hphase => by cases hphase⟩ fun j _ =>
      ⟨fun h hh => ?_, (c.stands j).found⟩
    · cases hh
      exact ⟨.inl rfl, c.untracked hnew⟩
    · exact ((c.stands j).hand h hh).imp_left .inr
  tracked h k hget := .inr (c.tracked h k hget)
  logins := c.logins
  kept h hh := by
    rcases hh with rfl | hh
    · exact .inr (.inl (inHand_self rfl))
    · exact (c.kept h hh).imp_right (Or.imp_left (inHand_update (by simp [hi, Phase.hand?])))

/-- A session that a call had in hand is tracked. -/
lemma tracks (c : Custody stand t opened failed) (hi : stand i = (d, .toTrack session))
    (readWrite : Bool) :
    Custody (Function.update stand i (d, .over)) (t.track session slot readWrite) opened
      failed := by
  obtain ⟨hopen, hfree⟩ : session ∈ opened ∧ t.tracked.get? session = none := by
    have hself := c.stands i
    rw [hi] at hself
    exact hself.hand session rfl
  have hthere {other : SlotId} {h : SessionId} (hfind : (t.find other h).isSome) :
      ((t.track session slot readWrite).find other h).isSome := by
    refine (Sessions.find_track readWrite ?_).mpr hfind
    rintro rfl
    obtain ⟨k, hget⟩ := Sessions.exists_get?_of_find hfind
    rw [hfree] at hget
    cases hget
  exact {
    distinct := c.distinct.put session _
    clear := c.clears hi (by simp) (by simp [Phase.hand?])
    stands := by
      refine stands_update (.of_idle rfl (by simp)) fun j hj => ⟨fun h hh => ?_, ?_⟩
      · have hne : h ≠ session := by
          rintro rfl
          exact (c.clear hj).hand h hh (by rw [hi]; rfl)
        rw [Sessions.get?_track, if_neg hne]
        exact (c.stands j).hand h hh
      · exact fun hphase slot h hd => hthere ((c.stands j).found hphase slot h hd)
    tracked := by
      intro h k hget
      by_cases hne : h = session
      · exact hne ▸ hopen
      · rw [Sessions.get?_track, if_neg hne] at hget
        exact c.tracked h k hget
    logins := by
      intro other user hlogin
      obtain ⟨h, hfind⟩ := c.logins other user hlogin
      exact ⟨h, hthere hfind⟩
    kept := by
      intro h hh
      by_cases hne : h = session
      · exact .inl ⟨_, by rw [Sessions.get?_track, if_pos hne]⟩
      · rw [Sessions.get?_track, if_neg hne]
        refine (c.kept h hh).imp_right (Or.imp_left (inHand_update ?_))
        simpa [hi, Phase.hand?] using Ne.symm hne }

/-- A call takes a tracked session of the slot into its hands. -/
lemma forgets (c : Custody stand t opened failed)
    (hi : stand i = (.closeSession slot session, .fresh)) (hfind : (t.find slot session).isSome) :
    Custody (Function.update stand i (.closeSession slot session, .toClose session))
      (t.forget slot session).2 opened failed := by
  obtain ⟨k, hget⟩ := Sessions.exists_get?_of_find hfind
  exact {
    distinct := Sessions.distinct_forget c.distinct slot session
    clear := by
      refine c.clears hi (by simp) fun h hh j _ hj => ?_
      cases hh
      have hnone := ((c.stands j).hand session hj).2
      rw [hget] at hnone
      cases hnone
    stands := by
      refine stands_update ⟨fun h hh => ?_, fun hphase => by cases hphase⟩ fun j hj =>
        ⟨fun h hh => ?_, fun hphase other h hd => ?_⟩
      · cases hh
        exact ⟨c.tracked session k hget, by rw [Sessions.get?_forget hfind, if_pos rfl]⟩
      · obtain ⟨hopen, hnone⟩ := (c.stands j).hand h hh
        refine ⟨hopen, ?_⟩
        rw [Sessions.get?_forget hfind, hnone, ite_self]
      · -- Had the other call found this very session, it would be a call on the same session.
        have hother := (c.stands j).found hphase other h hd
        refine (Sessions.find_forget hfind ?_).mpr hother
        rintro rfl
        have hslot := Sessions.slot_eq_of_find hfind hother
        refine c.alone hi (by simp) j hj (by simp [hphase]) ⟨by simp [hd], ?_⟩
        rw [hd, hslot]
        rfl
    tracked := by
      intro h k hafter
      rw [Sessions.get?_forget hfind] at hafter
      split_ifs at hafter
      exact c.tracked h k hafter
    logins := by
      intro other user hlogin
      obtain ⟨hbefore, hlast⟩ := (Sessions.logins_forget c.distinct hfind other user).mp hlogin
      obtain ⟨g, hg, hne⟩ : ∃ g, (t.find other g).isSome ∧ g ≠ session := by
        by_cases hother : other = slot
        · subst hother
          by_contra hnone
          exact hlast ⟨rfl, fun g hg => by_contra fun hne => hnone ⟨g, hg, hne⟩⟩
        · obtain ⟨g, hg⟩ := c.logins other user hbefore
          refine ⟨g, hg, ?_⟩
          rintro rfl
          exact hother (Sessions.slot_eq_of_find hfind hg)
      exact ⟨g, (Sessions.find_forget hfind hne).mpr hg⟩
    kept := by
      intro h hh
      by_cases hne : h = session
      · exact .inr (.inl (inHand_self (by rw [hne]; rfl)))
      · rw [Sessions.get?_forget hfind, if_neg hne]
        exact (c.kept h hh).imp_right (Or.imp_left (inHand_update (by simp [hi, Phase.hand?]))) }

/-- The library serves the closing of a session that a call had in hand. -/
lemma closes (c : Custody stand t opened failed) (hi : stand i = (d, .toClose session))
    {left more : Set SessionId} (hless : left ⊆ opened) (hrest : opened \ {session} ⊆ left)
    (hmore : failed ⊆ more) (hfailed : session ∈ left → session ∈ more) :
    Custody (Function.update stand i (d, .over)) t left more where
  distinct := c.distinct
  clear := c.clears hi (by simp) (by simp [Phase.hand?])
  stands := by
    refine stands_update (.of_idle rfl (by simp)) fun j hj =>
      ⟨fun h hh => ((c.stands j).hand h hh).imp_left fun hopen => hrest ⟨hopen, ?_⟩,
        (c.stands j).found⟩
    rintro rfl
    exact (c.clear hj).hand h hh (by rw [hi]; rfl)
  tracked h k hget := by
    refine hrest ⟨c.tracked h k hget, ?_⟩
    rintro rfl
    have hself := c.stands i
    rw [hi] at hself
    rw [(hself.hand h rfl).2] at hget
    cases hget
  logins := c.logins
  kept h hh := by
    rcases c.kept h (hless hh) with hget | hhand | hf
    · exact .inl hget
    · by_cases hne : h = session
      · exact .inr (.inr (hne ▸ hfailed (hne ▸ hh)))
      · refine .inr (.inl (inHand_update ?_ hhand))
        simpa [hi, Phase.hand?] using Ne.symm hne
    · exact .inr (.inr (hmore hf))

end Custody

/-! ### One turn -/

variable {σ : Type}

/-- The sessions that the library failed to close. -/
def unclosed (m : ModuleId) (trace : List Deed) : Set SessionId :=
  {h | ∃ code : Code, code ≠ .ok ∧ Deed.asked (.call m (.closeSession h)) code ∈ trace}

/-- A library that opens a session only under a number that is not zero and not in use, and closes
one only when it is asked to. `opened` says which sessions it has open. -/
structure Lawful (env : Environment σ) (m : ModuleId) (opened : σ → Set SessionId) : Prop where
  opens : ∀ slot flags application notify place s,
    let (reply, after) := env.answer (.call m (.openSession slot flags application notify place)) s
    reply.code = .ok → reply.written.getD 0 ≠ 0 ∧ reply.written.getD 0 ∉ opened s ∧
      opened after = insert (reply.written.getD 0) (opened s)
  refuses : ∀ slot flags application notify place s,
    let (reply, after) := env.answer (.call m (.openSession slot flags application notify place)) s
    reply.code ≠ .ok → opened after = opened s
  closes : ∀ session s,
    let (code, after) := env.answer (.call m (.closeSession session)) s
    opened after ⊆ opened s ∧ opened s \ {session} ⊆ opened after ∧
      (code = .ok → session ∉ opened after)
  logsIn : ∀ session user pin length s,
    opened (env.answer (.call m (.login session user pin length)) s).2 = opened s
  logsOut : ∀ session s, opened (env.answer (.call m (.logout session)) s).2 = opened s

variable {env : Environment σ} {m : ModuleId} {opened : σ → Set SessionId}

lemma unclosed_append (trace more : List Deed) : unclosed m trace ⊆ unclosed m (trace ++ more) :=
  fun _ ⟨code, hcode, hmem⟩ => ⟨code, hcode, List.mem_append_left more hmem⟩

/-- A call that is under way goes on with nothing in hand before or after. -/
lemma Custody.passes {now : Set SessionId} (c : Custody stand t now failed)
    (hi : stand i = (d, phase)) (hphase : phase ≠ .over) (hbefore : phase.hand? = none)
    (hafter : after.hand? = none) (hself : Stands t now d after) :
    Custody (Function.update stand i (d, after)) t now failed :=
  c.moves (by rw [hi]; exact hbefore) hafter (c.alone hi hphase) hself

lemma Custody.asked {o o' : σ} {trace : List Deed}
    (c : Custody stand t (opened o) (unclosed m trace)) (hlib : Lawful env m opened)
    (hi : stand i = (d, phase)) {r : Request} {x : r.Answer} (hanswer : env.answer r o = (x, o'))
    (hturn : d.Turn m phase (.asked r x) after) :
    Custody (Function.update stand i (d, after)) t (opened o')
      (unclosed m (trace ++ [.asked r x])) := by
  have hmore := unclosed_append (m := m) trace [.asked r x]
  cases hturn with
  | opens slot readWrite flags application notify place reply hcode =>
    have hopens := hlib.opens slot flags application notify place o
    rw [hanswer] at hopens
    obtain ⟨-, hnew, hset⟩ := hopens hcode
    rw [hset]
    exact (c.opens hi hnew).mono hmore
  | refuses slot readWrite flags application notify place reply hnone =>
    have hopens := hlib.opens slot flags application notify place o
    have hrefuses := hlib.refuses slot flags application notify place o
    rw [hanswer] at hopens hrefuses
    have hcode : reply.code ≠ .ok := fun hcode => (hopens hcode).1 (hnone hcode)
    rw [hrefuses hcode]
    exact (c.passes hi (by simp) rfl rfl (.of_idle rfl (by simp))).mono hmore
  | closes slot session code =>
    have hcloses := hlib.closes session o
    rw [hanswer] at hcloses
    obtain ⟨hless, hrest, hgone⟩ := hcloses
    refine c.closes hi hless hrest hmore fun hstill => ?_
    exact ⟨code, fun hcode => hgone hcode hstill, List.mem_append_right trace (.head _)⟩
  | logsIn slot session user secret pin length =>
    have hsame : opened o' = opened o := by
      have h := hlib.logsIn session user.code pin length o
      rwa [hanswer] at h
    have hself := c.stands i
    rw [hi] at hself
    rw [hsame]
    refine (c.passes hi (by simp) rfl (by split_ifs <;> rfl) ?_).mono hmore
    split_ifs
    · exact hself
    · exact .of_idle rfl (by simp)
  | logsOut slot session =>
    have hsame : opened o' = opened o := by
      have h := hlib.logsOut session o
      rwa [hanswer] at h
    have hself := c.stands i
    rw [hi] at hself
    rw [hsame]
    exact (c.passes hi (by simp) rfl rfl hself).mono hmore

lemma Custody.accessed {p : Process} {now : Set SessionId}
    (c : Custody stand (p.sessionsOf m) now failed) (hi : stand i = (d, phase))
    {a : Process.Access} {x : a.Answer} (hanswer : (a.apply p).1 = x)
    (hturn : d.Turn m phase (.accessed a x) after) :
    Custody (Function.update stand i (d, after)) ((a.apply p).2.sessionsOf m) now failed := by
  have hself := c.stands i
  rw [hi] at hself
  cases hturn with
  | tracks slot readWrite session =>
    rw [Process.sessionsOf_touch]
    exact c.tracks hi readWrite
  | forgets slot session =>
    rw [Process.sessionsOf_touch]
    refine c.forgets hi ?_
    rw [← Sessions.forget_fst]
    exact hanswer
  | ignores slot session =>
    have hnone : ((p.sessionsOf m).find slot session).isSome = false := by
      rw [← Sessions.forget_fst]
      exact hanswer
    rw [Process.sessionsOf_touch, Sessions.Access.apply, Sessions.forget_of_isNone hnone]
    exact c.passes hi (by simp) rfl rfl (.of_idle rfl (by simp))
  | finds _ slot session i hd =>
    rw [Process.sessionsOf_touch]
    refine c.passes hi (by simp) rfl rfl ⟨nofun, fun _ other h hother => ?_⟩
    rw [hd] at hother
    cases hother
    have hfind : (p.sessionsOf m).find slot session = some i := hanswer
    simp [hfind]
  | strays _ slot session =>
    rw [Process.sessionsOf_touch]
    exact c.passes hi (by simp) rfl rfl (.of_idle rfl (by simp))
  | notesLogin slot session user secret =>
    rw [Process.sessionsOf_touch]
    have hfind := hself.found rfl slot session rfl
    exact (c.logsIn hfind user).passes hi (by simp) rfl rfl (.of_idle rfl (by simp))
  | notesLogout slot session =>
    rw [Process.sessionsOf_touch]
    exact (c.logsOut slot).passes hi (by simp) rfl rfl (.of_idle rfl (by simp))

end Cryptoki
