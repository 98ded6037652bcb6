import BrowserCheck.Proofs.Sandbox.Turns

set_option autoImplicit false

namespace BrowserCheck.Sandbox.Sharing

variable {plans : Nat → Plan} {s t : State} {run other : Nat}

section Writes

lemma writes_append (run : Nat) (l r : List Entry) : writes run (l ++ r) = writes run l ++ writes run r :=
  List.filterMap_append

lemma writes_entries (p : Plan) (run : Nat) (c : Call) (files : Files) :
    writes run (entries p run c files) = c.writes := by
  cases c with
  | write path contents => simp only [entries, writes, List.filterMap_cons, if_true, List.filterMap_nil, Call.writes]
  | acquire | exec | pause => rfl

lemma writes_of_unheard (h : Unheard s run) : writes run s.log = [] := by
  refine List.filterMap_eq_nil_iff.mpr fun e he => ?_
  split
  · rw [if_neg (h e he)]
  · rfl

lemma mem_entries {p : Plan} {c : Call} {files : Files} {e : Entry} (h : e ∈ entries p run c files) :
    e = ⟨run, p.name, c, files p.path⟩ := by
  cases c with
  | acquire | exec | write => exact List.mem_singleton.mp h
  | pause => exact (List.not_mem_nil h).elim

lemma writes_entries_other (p : Plan) (c : Call) (files : Files) (ho : other ≠ run) :
    writes other (entries p run c files) = [] := by
  refine List.filterMap_eq_nil_iff.mpr fun e he => ?_
  rw [mem_entries he]
  split
  · rw [if_neg ho.symm]
  · rfl

end Writes

section Courses

lemma log_grows (h : Step plans run s t) : ∃ es, t.log = s.log ++ es ∧ (∀ e ∈ es, e.run = run) ∧
    ∀ other ≠ run, writes other es = [] := by
  rcases log_step h with hl | ⟨_, c, _, _, hl⟩
  · exact ⟨[], by rw [hl, List.append_nil], nofun, fun _ _ => rfl⟩
  · exact ⟨_, hl, fun e he => by rw [mem_entries he], fun other ho => writes_entries_other _ c _ ho⟩

lemma Turns.working_unique (ht : Turns plans s) (hr : (s.phase run).working) (ho : (s.phase other).working)
    (hn : (plans run).name = (plans other).name) : run = other := by
  have h := ht.first run hr
  rw [hn, ht.first other ho] at h
  exact (Option.some.inj h).symm

lemma Reached.kept {p : Plan} {stage : Stage} {asked : List (String × String)} (hs : Reached p s other stage asked)
    (h : Step plans run s t) (ho : other ≠ run) (hf : t.files p.name = s.files p.name) :
    Reached p t other stage asked := by
  obtain ⟨es, hl, -, hes⟩ := log_grows h
  refine ⟨?_, ?_, ?_⟩
  · rw [hl, writes_append, hes other ho, List.append_nil, hs.writes_eq]
  · intro hstage
    obtain ⟨sandbox, hh⟩ := hs.holds hstage
    exact ⟨sandbox, (ticket_other h ho).trans hh⟩
  · rw [hf]
    exact hs.found

lemma files_safe (ht : Turns plans s) (h : Step plans run s t) (ho : other ≠ run) (hw : (s.phase other).working) :
    t.files (plans other).name = s.files (plans other).name := by
  by_cases hn : (plans other).name = (plans run).name
  · rw [files_idle h fun hr => ho (ht.working_unique hw hr hn)]
  · exact files_other h hn

lemma course_other (ht : Turns plans s) (hc : OnCourse (plans other) s other) (h : Step plans run s t)
    (ho : other ≠ run) : OnCourse (plans other) t other := by
  have hheard (hu : Unheard s other) : Unheard t other := by
    obtain ⟨es, hl, hes, -⟩ := log_grows h
    intro e he
    rw [hl, List.mem_append] at he
    rcases he with he | he
    · exact hu e he
    · exact fun hh => ho (hh.symm.trans (hes e he))
  have hsafe := files_safe ht h ho
  rw [OnCourse] at hc ⊢
  rw [phase_other h ho]
  cases hp : s.phase other with
  | fresh =>
    rw [hp] at hc
    exact hheard hc
  | leasing =>
    rw [hp] at hc
    exact ⟨hc.1, hheard hc.2⟩
  | ready =>
    rw [hp] at hc hsafe
    obtain ⟨stage, hf, hs⟩ := hc
    exact ⟨stage, hf, hs.kept h ho (hsafe trivial)⟩
  | pending =>
    rw [hp] at hc hsafe
    obtain ⟨stage, hf, hs⟩ := hc
    exact ⟨stage, hf, hs.kept h ho (hsafe trivial)⟩
  | ended => trivial

lemma course_own (hc : OnCourse (plans run) s run) (h : Step plans run s t) : OnCourse (plans run) t run := by
  cases h with
  | refuse | finish => simp only [OnCourse, Function.update_self]
  | request hp hsession =>
    rw [OnCourse, hp] at hc
    simp only [OnCourse, Function.update_self]
    exact ⟨hsession ▸ (plans run).follows_session, hc⟩
  | enter hp =>
    rw [OnCourse, hp] at hc
    simp only [OnCourse, Function.update_self]
    refine ⟨.opening, hc.1, writes_of_unheard hc.2, fun h => (h rfl).elim, ?_⟩
    intro program h
    contradiction
  | @issue c next hp =>
    rw [OnCourse, hp] at hc
    simp only [OnCourse, Function.update_self]
    obtain ⟨stage, hf, hs⟩ := hc
    refine ⟨stage, hf, ?_, hs.holds, hs.found⟩
    rw [writes_append, writes_entries, hs.writes_eq, List.append_nil]
  | answer a hp hf hnext =>
    rw [OnCourse, hp] at hc
    simp only [OnCourse, Function.update_self]
    obtain ⟨stage, hfollows, hs⟩ := hc
    rcases answered hfollows hs a hf with ⟨stage', hfollows', hw, hh, _, hfound⟩ | ⟨result, hr, _⟩
    · refine ⟨stage', hnext ▸ hfollows', ?_, fun _ => hh, ?_⟩
      · rw [List.append_nil, hw]
        exact hs.writes_eq
      · simp only [Function.update_self]
        exact hfound
    · rw [hnext] at hr
      contradiction

end Courses

section Journals

lemma sublist_concat {α : Type} {l r : List α} {x a : α} (h : (l ++ [x]).Sublist (r ++ [a])) :
    (l ++ [x]).Sublist r ∨ l.Sublist r ∧ x = a := by
  rw [← List.reverse_sublist, List.reverse_append, List.reverse_append] at h
  rcases List.sublist_cons_iff.mp h with h | ⟨l', hl, h⟩
  · rw [← List.reverse_sublist, List.reverse_append]
    exact .inl h
  · obtain ⟨rfl, rfl⟩ := List.cons.inj hl
    exact .inr ⟨List.reverse_sublist.mp h, rfl⟩

structure Journal (plans : Nat → Plan) (s : State) : Prop where
  named : ∀ e ∈ s.log, e.name = (plans e.run).name
  latest : ∀ run, (s.phase run).working → ∀ e f, [e, f].Sublist s.log → e.run = run →
    f.name = (plans run).name → f.run = run
  contiguous : ∀ e between f, [e, between, f].Sublist s.log → e.run = f.run → between.name = e.name →
    between.run = e.run
  lawful : ∀ before e, (before ++ [e]) <+: s.log → Lawful (plans e.run) before e

lemma working_step (hc : OnCourse (plans other) s other) (h : Step plans run s t) (hw : (t.phase other).working) :
    (s.phase other).working ∨ Unheard s other := by
  by_cases ho : other = run
  · subst ho
    cases h with
    | refuse | request | finish =>
      simp only [Function.update_self] at hw
      exact hw.elim
    | enter hp =>
      rw [OnCourse, hp] at hc
      exact .inr hc.2
    | issue hp | answer a hp =>
      rw [hp]
      exact .inl trivial
  · exact .inl (phase_other h ho ▸ hw)

lemma lawful_call {stage : Stage} {c : Call} {next : c.Answer → Session (Outcome RawOutput)} {e : Entry}
    (hf : Follows (plans run) stage (.ask c next)) (hs : Reached (plans run) s run stage [])
    (he : e ∈ entries (plans run) run c (s.files (plans run).name)) : Lawful (plans run) s.log e := by
  have hw := hs.writes_eq
  rw [List.append_nil] at hw
  cases hf with
  | acquire =>
    obtain rfl := mem_entries he
    exact .inl ⟨hw, .inl rfl⟩
  | check =>
    obtain rfl := mem_entries he
    exact .inl ⟨hw, .inr (.inl rfl)⟩
  | pause => exact (List.not_mem_nil he).elim
  | write hb =>
    obtain rfl := mem_entries he
    exact .inl ⟨hw, .inr (.inr ⟨_, _, hb, rfl⟩)⟩
  | node =>
    obtain rfl := mem_entries he
    exact .inr ⟨_, _, hw, rfl, hs.found _ rfl⟩

namespace Journal

lemma of_quiet (hj : Journal plans s) (hc : ∀ run, OnCourse (plans run) s run) (h : Step plans run s t)
    (hl : t.log = s.log) : Journal plans t := by
  refine ⟨hl ▸ hj.named, ?_, hl ▸ hj.contiguous, hl ▸ hj.lawful⟩
  intro other hw e f hs he hn
  rw [hl] at hs
  rcases working_step (hc other) h hw with hw | hu
  · exact hj.latest other hw e f hs he hn
  · exact (hu e (hs.subset List.mem_cons_self) he).elim

lemma of_call (hj : Journal plans s) (ht : Turns plans s) (hc : ∀ run, OnCourse (plans run) s run)
    (h : Step plans run s t) (hr : (s.phase run).working) {e : Entry} (hl : t.log = s.log ++ [e])
    (hrun : e.run = run) (hname : e.name = (plans run).name) (hlaw : Lawful (plans run) s.log e) :
    Journal plans t := by
  subst hrun
  refine ⟨?_, ?_, ?_, ?_⟩
  · rw [hl]
    intro f hf
    rcases List.mem_append.mp hf with hf | hf
    · exact hj.named f hf
    · rw [List.mem_singleton.mp hf, hname]
  · intro other hw g f hs hg hn
    rw [hl] at hs
    rcases working_step (hc other) h hw with hw | hu
    · rcases sublist_concat (l := [g]) hs with hs | ⟨-, rfl⟩
      · exact hj.latest other hw g f hs hg hn
      · exact ht.working_unique hr hw (hname.symm.trans hn)
    · rcases sublist_concat (l := [g]) hs with hs | ⟨hs, -⟩
      · exact (hu g (hs.subset List.mem_cons_self) hg).elim
      · exact (hu g (List.singleton_sublist.mp hs) hg).elim
  · intro g between f hs hg hn
    rw [hl] at hs
    rcases sublist_concat (l := [g, between]) hs with hs | ⟨hpair, rfl⟩
    · exact hj.contiguous g between f hs hg hn
    · have hgn := hj.named g (hpair.subset List.mem_cons_self)
      rw [hg] at hgn
      rw [hg]
      exact hj.latest f.run hr g between hpair hg (hn.trans hgn)
  · intro before f hb
    rw [hl] at hb
    rcases List.prefix_concat_iff.mp hb with hb | hb
    · obtain ⟨rfl, hfe⟩ := List.append_inj' hb rfl
      obtain rfl := List.singleton_inj.mp hfe
      exact hlaw
    · exact hj.lawful before f hb

lemma step (hj : Journal plans s) (ht : Turns plans s) (hc : ∀ run, OnCourse (plans run) s run)
    (h : Step plans run s t) : Journal plans t := by
  rcases log_step h with hl | ⟨hw, c, next, hp, hl⟩
  · exact hj.of_quiet hc h hl
  · have hrun := hc run
    rw [OnCourse, hp] at hrun
    obtain ⟨stage, hf, hs⟩ := hrun
    cases he : entries (plans run) run c (s.files (plans run).name) with
    | nil =>
      rw [he, List.append_nil] at hl
      exact hj.of_quiet hc h hl
    | cons e es =>
      have hmem : e ∈ entries (plans run) run c (s.files (plans run).name) := by rw [he]; exact List.mem_cons_self
      have hlaw := lawful_call hf hs hmem
      have hes : es = [] := by
        cases c with
        | acquire | exec | write => exact (List.cons.inj he).2.symm
        | pause => contradiction
      subst hes
      rw [he] at hl
      rw [mem_entries hmem] at hl hlaw
      exact hj.of_call ht hc h hw hl rfl rfl hlaw

end Journal

end Journals

structure Invariant (plans : Nat → Plan) (s : State) : Prop where
  turns : Turns plans s
  course : ∀ run, OnCourse (plans run) s run
  journal : Journal plans s

lemma invariant_initial (files : String → Files) : Invariant plans ⟨.empty, fun _ => .fresh, files, []⟩ := by
  refine ⟨⟨fun name run => ?_, fun name => List.nodup_nil, fun run h => h.elim⟩, fun run => nofun,
    ⟨nofun, fun run h => h.elim, fun e between f h => ?_, fun before e h => ?_⟩⟩
  · exact ⟨fun h => (List.not_mem_nil h).elim, fun h => h.2.elim⟩
  · cases h
  · exact (List.append_ne_nil_of_right_ne_nil before (List.cons_ne_nil e []) (List.prefix_nil.mp h)).elim

lemma Invariant.step (hi : Invariant plans s) (h : Step plans run s t) : Invariant plans t := by
  refine ⟨hi.turns.step hi.course h, fun other => ?_, hi.journal.step hi.turns hi.course h⟩
  by_cases ho : other = run
  · subst ho
    exact course_own (hi.course other) h
  · exact course_other hi.turns (hi.course other) h ho

lemma invariant_of_reachable (h : Reachable plans s) : Invariant plans s := by
  induction h with
  | initial files => exact invariant_initial files
  | step _ _ h ih => exact ih.step h

section Progress

lemma Invariant.queue_other (hi : Invariant plans s) (h : Step plans run s t) {name : String}
    (hn : name ≠ (plans run).name) : t.pool.queue name = s.pool.queue name := by
  have hc := hi.course run
  cases h with
  | refuse | enter | issue => rfl
  | request hp hsession =>
    have hf := (plans run).follows_session
    rw [hsession] at hf
    rw [acquired_name hf]
    exact (Pool.queue_request _ _ _ _).trans (if_neg hn)
  | answer a hp hf hnext => exact queue_answered hc hp hf hnext name
  | finish a hp hf => exact (queue_finished hc hp hf name).trans (if_neg hn)

lemma Invariant.inside_iff (hi : Invariant plans s) : Inside s run ↔ s.pool.holder (plans run).name = some run := by
  have hc := hi.course run
  have hfirst := hi.turns.first run
  have hqueue (h : s.pool.holder (plans run).name = some run) :=
    ((hi.turns.mem_queue _ run).mp (Turns.mem_holder h)).2
  rw [OnCourse] at hc
  rw [Inside]
  cases hp : s.phase run with
  | fresh | ended =>
    rw [hp] at hqueue
    exact ⟨False.elim, hqueue⟩
  | leasing name next =>
    rw [hp] at hc
    rw [acquired_name hc.1]
  | ready | pending =>
    rw [hp] at hfirst
    exact ⟨fun _ => hfirst trivial, fun _ => trivial⟩

lemma Invariant.inside_of_holder (hi : Invariant plans s) {name : String} (h : s.pool.holder name = some run) :
    (plans run).name = name ∧ Inside s run := by
  have hn := ((hi.turns.mem_queue name run).mp (Turns.mem_holder h)).1
  exact ⟨hn, hi.inside_iff.mpr (hn ▸ h)⟩

lemma exists_answer (c : Call) (before : Files) : ∃ (a : c.Answer) (after : Files), FilesAfter c a before after := by
  cases c with
  | acquire name => exact ⟨.error (.internal ""), before, rfl⟩
  | exec command => exact ⟨.ok .empty, before, rfl⟩
  | write path contents => exact ⟨.ok (), _, rfl⟩
  | pause milliseconds => exact ⟨(), before, rfl⟩

lemma exists_step_of_inside (h : Inside s run) : ∃ t, Step plans run s t := by
  rw [Inside] at h
  cases hp : s.phase run with
  | fresh | ended =>
    rw [hp] at h
    exact h.elim
  | leasing name next =>
    rw [hp] at h
    exact ⟨_, .enter hp h⟩
  | ready c next => exact ⟨_, .issue hp⟩
  | pending c next =>
    obtain ⟨a, after, hf⟩ := exists_answer c (s.files (plans run).name)
    cases hnext : next a with
    | ask c' next' => exact ⟨_, .answer a hp hf hnext⟩
    | done result => exact ⟨_, .finish a hp hf hnext⟩

lemma exists_step_of_fresh (h : s.phase run = .fresh) : ∃ t, Step plans run s t := by
  rcases (plans run).session_cases with ⟨result, hsession⟩ | ⟨next, hsession⟩
  · exact ⟨_, .refuse h hsession⟩
  · exact ⟨_, .request h hsession⟩

lemma fresh_or_inside (h : Step plans run s t) : s.phase run = .fresh ∨ Inside s run := by
  cases h with
  | refuse hp | request hp => exact .inl hp
  | enter hp hh =>
    rw [Inside, hp]
    exact .inr hh
  | issue hp | answer a hp | finish a hp =>
    rw [Inside, hp]
    exact .inr trivial

lemma Invariant.exists_step_or_waits (hi : Invariant plans s) (he : ∀ result, s.phase run ≠ .ended result) :
    (∃ t, Step plans run s t) ∨ ∃ other, other ≠ run ∧ Inside s other ∧ (plans other).name = (plans run).name := by
  by_cases hin : Inside s run
  · exact .inl (exists_step_of_inside hin)
  · have hengaged (h : (s.phase run).engaged) : ∃ other, s.pool.holder (plans run).name = some other := by
      have hmem := (hi.turns.mem_queue _ run).mpr ⟨rfl, h⟩
      exact ⟨_, List.head?_eq_some_head (List.ne_nil_of_mem hmem)⟩
    cases hp : s.phase run with
    | fresh => exact .inl (exists_step_of_fresh hp)
    | leasing | ready | pending =>
      obtain ⟨other, hh⟩ := hengaged (by rw [hp]; trivial)
      obtain ⟨hn, hother⟩ := hi.inside_of_holder hh
      exact .inr ⟨other, fun ho => hin (ho ▸ hother), hother, hn⟩
    | ended result => exact (he result hp).elim

lemma Invariant.hands_over (hi : Invariant plans s) {result : Outcome RawOutput} (h : Step plans run s t)
    (hin : Inside s run) (he : t.phase run = .ended result) :
    s.pool.queue (plans run).name = run :: t.pool.queue (plans run).name := by
  have hc := hi.course run
  obtain ⟨rest, hq⟩ := List.head?_eq_some_iff.mp (hi.inside_iff.mp hin)
  cases h with
  | refuse hp =>
    rw [Inside, hp] at hin
    exact hin.elim
  | request | enter | issue | answer =>
    simp only [Function.update_self] at he
    contradiction
  | finish a hp hf =>
    rw [queue_finished hc hp hf, if_pos rfl, hq, List.erase_cons_head]

lemma Invariant.undisturbed (hi : Invariant plans s) (h : Step plans run s t)
    (hn : (plans other).name ≠ (plans run).name) : t.phase other = s.phase other ∧
      t.pool.queue (plans other).name = s.pool.queue (plans other).name ∧
      t.files (plans other).name = s.files (plans other).name ∧
      ((∃ u, Step plans other s u) → ∃ u, Step plans other t u) := by
  have ho : other ≠ run := by
    rintro rfl
    exact hn rfl
  have hphase := phase_other h ho
  have hqueue := hi.queue_other h hn
  refine ⟨hphase, hqueue, files_other h hn, ?_⟩
  rintro ⟨u, hu⟩
  rcases fresh_or_inside hu with hf | hin
  · exact exists_step_of_fresh (hphase.trans hf)
  · apply exists_step_of_inside
    rw [(hi.step h).inside_iff, Pool.holder, hqueue]
    exact hi.inside_iff.mp hin

end Progress

/-- Whatever the runs do, and whatever their sandboxes answer, each has its sandbox for itself. -/
theorem exclusive_of_reachable (h : Reachable plans s) : Exclusive plans s := by
  have hi := invariant_of_reachable h
  refine ⟨?_, hi.journal.contiguous, ?_, ?_, ?_, ?_, ?_, ?_⟩
  · intro run other hr ho hn
    have hh := hi.inside_iff.mp hr
    rw [hn, hi.inside_iff.mp ho] at hh
    exact (Option.some.inj hh).symm
  · intro before e hb
    exact ⟨hi.journal.named e (hb.subset (by simp)), hi.journal.lawful before e hb⟩
  · intro run result hp name hm
    have he := ((hi.turns.mem_queue name run).mp hm).2
    rw [hp] at he
    exact he
  · intro run t result hstep hin he
    exact hi.hands_over hstep hin he
  · intro name run hh
    obtain ⟨-, hin⟩ := hi.inside_of_holder hh
    exact ⟨hin, exists_step_of_inside hin⟩
  · intro run he
    exact hi.exists_step_or_waits he
  · intro run other t hstep hn
    exact hi.undisturbed hstep hn

theorem exclusive_two_contenders : ∃ s, Reachable (fun _ => ⟨.standard, .standard, ⟨"1.0.0", []⟩⟩) s ∧
    s.pool.queue "momos-sandbox" = [0, 1] ∧ Inside s 0 ∧ ¬Inside s 1 ∧
    Exclusive (fun _ => ⟨.standard, .standard, ⟨"1.0.0", []⟩⟩) s := by
  let plan : Plan := ⟨.standard, .standard, ⟨"1.0.0", []⟩⟩
  obtain ⟨next, hs⟩ : ∃ next, plan.session = .ask (.acquire "momos-sandbox") next := by
    have hb : Program.Block.ofScript plan.script = .ok ⟨.v100, 0, []⟩ := by decide
    rw [Plan.session, Gateway.execute, hb]
    exact ⟨_, rfl⟩
  have h0 : Reachable (fun _ => plan) _ := .initial fun _ _ => none
  have h1 := h0.step 0 (.request (Eq.refl (Phase.fresh)) hs)
  have h2 := h1.step 1 (.request (Eq.refl (Phase.fresh)) hs)
  have h3 := h2.step 0 (.enter (Eq.refl (Phase.leasing _ next)) (Eq.refl (some 0)))
  have h4 := h3.step 0 (.issue (Eq.refl (Phase.ready _ next)))
  have hnot (h : some 0 = some 1) : False := by contradiction
  exact ⟨_, h4, rfl, trivial, hnot, exclusive_of_reachable h4⟩

end BrowserCheck.Sandbox.Sharing
