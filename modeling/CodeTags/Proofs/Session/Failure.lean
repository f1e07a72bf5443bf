import CodeTags.Proofs.Exchange
import CodeTags.ScriptedGenerator

/-!
# The end of a session

The first failure is the end of a session. Nothing is sent to the generator after it and nothing
that it wrote is read, so that no answer can be taken for the answer to another request.

* `queries_of_ready`: the results of a session: answers, then one failure, then refusals.
* `ready_iff`: a session can be used as long as there are answers.
* `drop_queries_of_error`: behind a failure it stays as it is, whatever the generator would do.
* `Generator.recorded`: a generator that also writes down the bytes that it takes.
* `record_of_answer`, `record_of_getElem?`: which bytes these are.
* `queries_until_failure`: all that holds of a session from its start on.
-/

namespace CodeTags

/-- Those of the bytes that were taken. -/
def Sent.takenOf {σ : Type} (sent : Sent σ) (bytes : List UInt8) : List UInt8 :=
  match sent.stop with
  | none => bytes
  | some (n, _) => bytes.take n

theorem Sent.takenOf_isPrefix {σ : Type} (sent : Sent σ) (bytes : List UInt8) :
    sent.takenOf bytes <+: bytes := by
  unfold takenOf
  split
  · exact List.prefix_rfl
  · exact List.take_prefix _ _

/-- The same generator with a record of all bytes that it has taken. -/
def Generator.recorded {σ : Type} (g : Generator σ) : Generator (σ × List UInt8) where
  send s bytes :=
    let sent := g.send s.1 bytes
    ⟨(sent.state, s.2 ++ sent.takenOf bytes), sent.output, sent.stop⟩
  behind s := g.behind s.1
  ends s := g.ends s.1
  patternError? := g.patternError?

namespace GeneratorSession

variable {σ : Type} {g : Generator σ} {s t : GeneratorSession σ}

/-! ## Results in turn -/

/-- The results are answers up to the first failure, and refusals behind it. Only a query that
stalls keeps those behind it from being made. -/
theorem queries_of_ready (h : s.ready = true) (g : Generator σ) (paths : List String) :
    ∃ (answers : List TagSet) (rest : List (Except GeneratorError TagSet)),
      (queries g s paths).map (·.1) = answers.map .ok ++ rest ∧
      (rest = [] ∧ answers.length = paths.length ∨
        rest = [.error .stalled] ∧ answers.length < paths.length ∨
        ∃ e n, e ≠ .dead ∧ e ≠ .stalled ∧ rest = .error e :: List.replicate n (.error .dead) ∧
          answers.length + 1 + n = paths.length) := by
  induction paths generalizing s with
  | nil => exact ⟨[], [], rfl, .inl ⟨rfl, rfl⟩⟩
  | cons path paths ih =>
    rcases query_of_ready h g path with ⟨tags, hok, hready⟩ | ⟨e, hne, herror, hdead⟩
    · obtain ⟨answers, rest, hresults, hrest⟩ := ih hready
      refine ⟨tags :: answers, rest, ?_, ?_⟩
      · rw [queries_cons_of_ok hok, List.map_cons, hok, hresults]
        rfl
      · simp only [List.length_cons]
        rcases hrest with ⟨hnil, hlen⟩ | ⟨hstalled, hlen⟩ | ⟨e, n, hne, hreturns, hfailed, hlen⟩
        · exact .inl ⟨hnil, by omega⟩
        · exact .inr (.inl ⟨hstalled, by omega⟩)
        · exact .inr (.inr ⟨e, n, hne, hreturns, hfailed, by omega⟩)
    · by_cases hstalled : e = .stalled
      · subst hstalled
        refine ⟨[], [.error .stalled], ?_, .inr (.inl ⟨rfl, Nat.succ_pos _⟩)⟩
        rw [queries_cons_of_stalled herror, List.map_singleton, herror]
        rfl
      · refine ⟨[], _, rfl, .inr (.inr ⟨e, paths.length, hne, hstalled, ?_, ?_⟩)⟩
        · rw [queries_cons (by simp [herror, hstalled]), List.map_cons, herror,
            queries_of_dead hdead, List.map_map]
          exact congrArg _ List.map_const'
        · rw [List.length_cons, List.length_nil]
          omega

/-- From a query on that fails there are no answers, and the session is dead. -/
theorem failed_of_error {path : String} {e : GeneratorError}
    (herror : (s.query g path).1 = .error e) (hdead : (s.query g path).2.ready = false)
    {paths : List String} {r : Except GeneratorError TagSet × GeneratorSession σ}
    (hr : r ∈ queries g s (path :: paths)) :
    (∃ e, r.1 = .error e) ∧ r.2.ready = false := by
  by_cases hstalled : e = .stalled
  · subst hstalled
    rw [queries_cons_of_stalled herror, List.mem_singleton] at hr
    subst hr
    exact ⟨⟨_, herror⟩, hdead⟩
  · rw [queries_cons (by simp [herror, hstalled]), queries_of_dead hdead, List.mem_cons] at hr
    rcases hr with rfl | hr
    · exact ⟨⟨e, herror⟩, hdead⟩
    · obtain ⟨-, -, rfl⟩ := List.mem_map.mp hr
      exact ⟨⟨.dead, rfl⟩, hdead⟩

/-- A session is ready behind a query if and only if every query so far has an answer. -/
theorem ready_iff (h : s.ready = true) (g : Generator σ) (paths : List String) {i : Nat}
    (hi : i < (queries g s paths).length) :
    (queries g s paths)[i].2.ready = true ↔
      ∀ r ∈ (queries g s paths).take (i + 1), ∃ tags, r.1 = .ok tags := by
  induction paths generalizing s i with
  | nil => exact absurd hi (by simp [queries])
  | cons path paths ih =>
    rcases query_of_ready h g path with ⟨tags, hok, hready⟩ | ⟨e, -, herror, hdead⟩
    · simp only [queries_cons_of_ok hok, List.take_succ_cons, List.forall_mem_cons]
      cases i with
      | zero => simp [hok, hready]
      | succ i =>
        rw [List.getElem_cons_succ, ih hready]
        exact ⟨fun h => ⟨⟨tags, hok⟩, h⟩, fun h => h.2⟩
    · have hfailed := (failed_of_error herror hdead (List.getElem_mem hi)).2
      refine iff_of_false (by simp [hfailed]) fun hall => ?_
      obtain ⟨later, hcons⟩ := exists_queries_cons g s path paths
      rw [hcons, List.take_succ_cons, List.forall_mem_cons] at hall
      obtain ⟨tags, hok⟩ := hall.1
      rw [herror] at hok
      cases hok

/-! ## Behind a failure -/

/-- A query with an error leaves a dead session. -/
theorem ready_of_error {paths : List String} {e : GeneratorError}
    (h : (.error e, t) ∈ queries g s paths) : t.ready = false := by
  obtain ⟨k, hk⟩ := List.mem_iff_getElem?.mp h
  obtain ⟨u, path, hquery, -⟩ := exists_query_of_getElem? hk
  cases hready : u.ready with
  | false =>
    rw [query_of_dead hready] at hquery
    rw [← (Prod.mk.inj hquery).2]
    exact hready
  | true =>
    rcases query_of_ready hready g path with ⟨tags, hok, -⟩ | ⟨e', -, -, hdead⟩
    · rw [hquery] at hok
      cases hok
    · rwa [hquery] at hdead

/-- Behind a failure the session stays as the failure left it. -/
theorem drop_queries_of_error {paths : List String} {i : Nat} {e : GeneratorError}
    (ht : (queries g s paths)[i]? = some (.error e, t)) :
    ∀ r ∈ (queries g s paths).drop (i + 1), r = (.error .dead, t) := by
  intro r hr
  by_cases hstalled : e = .stalled
  · subst hstalled
    rw [drop_queries_of_stalled ht] at hr
    exact absurd hr List.not_mem_nil
  · have hdead := ready_of_error (List.mem_of_getElem? ht)
    rw [drop_queries ht (by simp [hstalled]), queries_of_dead hdead] at hr
    obtain ⟨-, -, rfl⟩ := List.mem_map.mp hr
    rfl

/-! ## The record -/

/-- The session without the record of its generator. -/
def withoutRecord (s : GeneratorSession (σ × List UInt8)) : GeneratorSession σ :=
  ⟨s.state.1, s.unread, s.ready⟩

theorem exchange_recorded (s : GeneratorSession (σ × List UInt8)) (g : Generator σ)
    (path : String) :
    s.withoutRecord.exchange g path =
      ((s.exchange g.recorded path).1, (s.exchange g.recorded path).2.withoutRecord) := by
  unfold exchange
  dsimp only [Generator.recorded, withoutRecord]
  cases (g.send s.state.1 (requestBytes path)).stop with
  | some stop => rfl
  | none =>
    cases g.patternError? path with
    | some reason => rfl
    | none =>
      unfold receive
      dsimp only [afterSend]
      split <;> rfl

/-- A record changes no result. -/
theorem query_recorded (s : GeneratorSession (σ × List UInt8)) (g : Generator σ) (path : String) :
    s.withoutRecord.query g path =
      ((s.query g.recorded path).1, (s.query g.recorded path).2.withoutRecord) := by
  unfold query
  rw [exchange_recorded]
  show (if s.ready = true then _ else _) = _
  split
  · cases s.exchange g.recorded path with
    | mk result t => cases result <;> rfl
  · rfl

theorem queries_recorded (s : GeneratorSession (σ × List UInt8)) (g : Generator σ)
    (paths : List String) :
    (queries g.recorded s paths).map (fun r => (r.1, r.2.withoutRecord)) =
      queries g s.withoutRecord paths := by
  induction paths generalizing s with
  | nil => rfl
  | cons path paths ih =>
    have hquery := query_recorded s g path
    have hresult : (s.withoutRecord.query g path).1 = (s.query g.recorded path).1 := by rw [hquery]
    by_cases hstalled : (s.query g.recorded path).1 = .error .stalled
    · rw [queries_cons_of_stalled hstalled, queries_cons_of_stalled (hresult.trans hstalled),
        List.map_singleton, hquery]
    · rw [queries_cons hstalled, queries_cons (by rwa [hresult]), List.map_cons, ih, hquery]

/-- A query writes what the generator takes of its request at the end of the record. -/
theorem record_query {s : GeneratorSession (σ × List UInt8)} (h : s.ready = true) (g : Generator σ)
    (path : String) :
    (s.query g.recorded path).2.state.2 =
      s.state.2 ++ (g.send s.state.1 (requestBytes path)).takenOf (requestBytes path) := by
  rw [state_query h]
  rfl

/-- A request with an answer is in the record as a whole. -/
theorem record_query_ok {s t : GeneratorSession (σ × List UInt8)} {path : String} {tags : TagSet}
    (h : s.query g.recorded path = (.ok tags, t)) :
    t.state.2 = s.state.2 ++ requestBytes path := by
  have hrecord := record_query (exchange_of_query_ok h).1 g path
  have hstop : (g.send s.state.1 (requestBytes path)).stop = none := stop_of_query_ok h
  rwa [h, Sent.takenOf, hstop] at hrecord

/-- Behind an answer the generator has taken the request for it, and those for the answers before,
but nothing else. -/
theorem record_of_answer {s t : GeneratorSession (σ × List UInt8)} {paths : List String} {i : Nat}
    {tags : TagSet} (h : s.ready = true)
    (ht : (queries g.recorded s paths)[i]? = some (.ok tags, t)) :
    t.state.2 = s.state.2 ++ (paths.take (i + 1)).flatMap requestBytes := by
  induction paths generalizing s i with
  | nil => simp [queries] at ht
  | cons path paths ih =>
    rcases query_of_ready h g.recorded path with ⟨tags', hok, hready⟩ | ⟨e, -, herror, hdead⟩
    · have hrecord := record_query_ok (Prod.ext hok rfl)
      rw [queries_cons_of_ok hok] at ht
      cases i with
      | zero =>
        rw [List.getElem?_cons_zero, Option.some.injEq] at ht
        rw [ht] at hrecord
        simpa using hrecord
      | succ i =>
        rw [ih hready ht, hrecord, List.take_succ_cons, List.flatMap_cons, List.append_assoc]
    · obtain ⟨⟨e', he'⟩, -⟩ := failed_of_error herror hdead (List.mem_of_getElem? ht)
      cases he'

/-- Whatever becomes of the queries, the generator has taken the requests up to some place in them,
each once and in order. -/
theorem record_of_getElem? {s t : GeneratorSession (σ × List UInt8)} {paths : List String} {i : Nat}
    {result : Except GeneratorError TagSet} (h : s.ready = true)
    (ht : (queries g.recorded s paths)[i]? = some (result, t)) :
    ∃ taken, t.state.2 = s.state.2 ++ taken ∧
      taken <+: (paths.take (i + 1)).flatMap requestBytes := by
  induction paths generalizing s i with
  | nil => simp [queries] at ht
  | cons path paths ih =>
    rw [List.take_succ_cons, List.flatMap_cons]
    -- What the first query writes is a part of its own request.
    have hfirst : ∀ u, u = (s.query g.recorded path).2 → ∃ taken,
        u.state.2 = s.state.2 ++ taken ∧
          taken <+: requestBytes path ++ (paths.take i).flatMap requestBytes := by
      rintro u rfl
      exact ⟨_, record_query h g path,
        (Sent.takenOf_isPrefix _ _).trans (List.prefix_append _ _)⟩
    cases i with
    | zero =>
      rw [getElem?_zero_queries, Option.some.injEq] at ht
      exact hfirst t (by rw [ht])
    | succ i =>
      rcases query_of_ready h g.recorded path with ⟨tags, hok, hready⟩ | ⟨e, -, herror, -⟩
      · rw [queries_cons_of_ok hok, List.getElem?_cons_succ] at ht
        obtain ⟨taken, htaken, hprefix⟩ := ih hready ht
        refine ⟨requestBytes path ++ taken, ?_, (List.prefix_append_right_inj _).mpr hprefix⟩
        rw [htaken, record_query_ok (Prod.ext hok rfl), List.append_assoc]
      · have hzero : (queries g.recorded s (path :: paths))[0]? =
            some (.error e, (s.query g.recorded path).2) := by
          rw [getElem?_zero_queries, ← herror]
        have hlater : (result, t) ∈ (queries g.recorded s (path :: paths)).drop (0 + 1) :=
          List.mem_of_getElem? (i := i) (by rwa [List.getElem?_drop, Nat.zero_add, Nat.add_comm])
        exact hfirst t (Prod.mk.inj (drop_queries_of_error hzero _ hlater)).2

/-! ## The whole session -/

/-- **The first failure is final.** Whatever the generator does, the results of a session are
answers, and if not all queries have one, a failure that is no refusal, and only refusals behind it;
a query that does not return is the last one. The session is ready behind a query if and only if
that query and all before it have answers. While there are answers, the generator has taken just the
requests for them, and at a failure no more than a part of its request besides. Behind a failure
neither the generator, nor the bytes that it has taken, nor what of its output is unread changes; no
query has an effect then, whatever generator it were to go to. -/
theorem queries_until_failure (g : Generator σ) (state : σ) (unread : List UInt8)
    (paths : List String) :
    let results := queries g ⟨state, unread, true⟩ paths
    let recorded := queries g.recorded ⟨(state, []), unread, true⟩ paths
    (∃ (answers : List TagSet) (rest : List (Except GeneratorError TagSet)),
      results.map (·.1) = answers.map .ok ++ rest ∧
      (rest = [] ∧ answers.length = paths.length ∨
        rest = [.error .stalled] ∧ answers.length < paths.length ∨
        ∃ e n, e ≠ .dead ∧ e ≠ .stalled ∧ rest = .error e :: List.replicate n (.error .dead) ∧
          answers.length + 1 + n = paths.length)) ∧
    (∀ i (h : i < results.length),
      results[i].2.ready = true ↔ ∀ r ∈ results.take (i + 1), ∃ tags, r.1 = .ok tags) ∧
    recorded.map (fun r => (r.1, r.2.withoutRecord)) = results ∧
    (∀ i tags t, recorded[i]? = some (.ok tags, t) →
      t.state.2 = (paths.take (i + 1)).flatMap requestBytes) ∧
    (∀ i e t, recorded[i]? = some (.error e, t) →
      t.state.2 <+: (paths.take (i + 1)).flatMap requestBytes ∧
      (∀ r ∈ recorded.drop (i + 1), r = (.error .dead, t)) ∧
      ∀ (g' : Generator (σ × List UInt8)) (later : List String),
        queries g' t later = later.map fun _ => (.error .dead, t)) := by
  intro results recorded
  refine ⟨queries_of_ready rfl g paths, fun i h => ready_iff rfl g paths h,
    queries_recorded _ g paths, fun i tags t ht => ?_, fun i e t ht => ⟨?_, ?_, ?_⟩⟩
  · simpa using record_of_answer rfl ht
  · obtain ⟨taken, htaken, hprefix⟩ := record_of_getElem? rfl ht
    rw [htaken, List.nil_append]
    exact hprefix
  · exact drop_queries_of_error ht
  · exact fun g' later => queries_of_dead (ready_of_error (List.mem_of_getElem? ht)) g' later

/-- A program that gives two answers at once and stops. The second is no answer to any query. -/
example :
    let answers := Utf8.encode "###terminator###\n###terminator###\n".toList
    (queries (ScriptedGenerator.generator fun _ => none) (start (.start [] [⟨answers, true⟩]))
      ["a.c", "b.c", "c.c"]).map (fun r => (r.1.isOk, r.2.unread.length)) =
      [(true, 17), (false, 17), (false, 17)] := by decide +kernel

end GeneratorSession

end CodeTags
