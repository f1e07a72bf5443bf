import CodeTags.Proofs.TagSet
import CodeTags.Proofs.Text.LineFeed

/-!
# Exchanges with the tag generator

What one request and its answer can come to. An exchange says how it ended; the query around it
turns any error into the end of the session.

* `readAnswer_eq_some`: what is read of an answer are definitions that its lines report.
* `Exchanged`: the four ways in which an exchange ends. `exchanged_exchange`: there are no others.
* `query_of_exchange_ok`, `query_of_exchange_error`: the query around an exchange.
* `query_of_ready`, `query_of_dead`: one query, by whether the session can be used.
* `queries_cons`, `exists_query_of_getElem?`, `drop_queries`: a session goes on behind a query that
  returns.
-/

namespace CodeTags

/-! ## Reading an answer -/

theorem insertReply_of_parse? (s : TagSet) (line : List UInt8) :
    s.insertReply line =
      ((Definition.parse? s.path (replyText line)).toList).foldl TagSet.insertDefinition s := by
  unfold TagSet.insertReply
  cases Definition.parse? s.path (replyText line) <;> rfl

/-- What is read of an answer are definitions that its lines report. -/
theorem readAnswer_eq_some {tags tags' : TagSet} {lines later : List (List UInt8)}
    (h : readAnswer tags lines = some (tags', later)) :
    ∃ ds : List Definition, tags' = ds.foldl TagSet.insertDefinition tags ∧
      ∀ d ∈ ds, ∃ line, Definition.parse? tags.path (replyText line) = some d := by
  induction lines generalizing tags with
  | nil => exact absurd h (by simp [readAnswer])
  | cons line lines ih =>
    rw [readAnswer] at h
    split at h
    · obtain ⟨rfl, -⟩ := Prod.mk.inj (Option.some.inj h)
      exact ⟨[], rfl, by simp⟩
    · obtain ⟨ds, rfl, hds⟩ := ih h
      rw [insertReply_of_parse?, TagSet.path_foldl_insertDefinition] at hds
      rw [insertReply_of_parse?, ← List.foldl_append]
      refine ⟨_, rfl, fun d hd => ?_⟩
      rcases List.mem_append.mp hd with hd | hd
      · exact ⟨line, Option.mem_toList.mp hd⟩
      · exact hds d hd

theorem PipeStop.error_ne_dead (stop : PipeStop) : stop.error ≠ .dead := by
  cases stop <;> simp [error]

theorem GeneratorError.atEnd_ne_dead (path : String) (behind : Option PipeStop) :
    atEnd path behind ≠ .dead := by
  cases behind with
  | none => simp [atEnd]
  | some stop => exact stop.error_ne_dead

namespace GeneratorSession

variable {σ : Type} {g : Generator σ} {s t : GeneratorSession σ} {path : String}

/-! ## One exchange -/

/-- The session when the request for `path` is written, so far as it is. -/
def asked (g : Generator σ) (s : GeneratorSession σ) (path : String) : GeneratorSession σ :=
  s.afterSend (g.send s.state (requestBytes path))

/-- The lines that can be read then. -/
def linesFor (g : Generator σ) (s : GeneratorSession σ) (path : String) : List (List UInt8) :=
  linesBefore lineFeed (g.behind (s.asked g path).state).isSome (s.asked g path).unread

/-- The ways in which an exchange ends: the request is not taken as a whole, there is no pattern for
the answer, the answer is not complete, or it is. -/
inductive Exchanged (g : Generator σ) (s : GeneratorSession σ) (path : String) :
    Except GeneratorError TagSet × GeneratorSession σ → Prop where
  | unsent {taken : Nat} {stop : PipeStop}
      (send : (g.send s.state (requestBytes path)).stop = some (taken, stop)) :
      Exchanged g s path (.error stop.error, s.asked g path)
  | unmatched {reason : String} (send : (g.send s.state (requestBytes path)).stop = none)
      (pattern : g.patternError? path = some reason) :
      Exchanged g s path (.error (.badPattern reason), s.asked g path)
  | unanswered (send : (g.send s.state (requestBytes path)).stop = none)
      (pattern : g.patternError? path = none)
      (answer : readAnswer (.empty path) (s.linesFor g path) = none) :
      Exchanged g s path (.error (.atEnd path (g.behind (s.asked g path).state)),
        { s.asked g path with unread := [] })
  | answered {tags : TagSet} {later : List (List UInt8)}
      (send : (g.send s.state (requestBytes path)).stop = none)
      (pattern : g.patternError? path = none)
      (answer : readAnswer (.empty path) (s.linesFor g path) = some (tags, later)) :
      Exchanged g s path (.ok tags, { s.asked g path with
        unread := later.flatten ++
          (s.asked g path).unread.drop (s.linesFor g path).flatten.length })

theorem exchanged_exchange (g : Generator σ) (s : GeneratorSession σ) (path : String) :
    Exchanged g s path (s.exchange g path) := by
  unfold exchange
  dsimp only
  split
  · next taken stop hsend => exact .unsent hsend
  · next hsend =>
    split
    · next reason hpattern => exact .unmatched hsend hpattern
    · next hpattern =>
      unfold receive
      dsimp only
      split
      · next tags later hanswer => exact .answered hsend hpattern hanswer
      · next hanswer => exact .unanswered hsend hpattern hanswer

/-- However an exchange ends, its request was sent once, and that is all that the generator sees. -/
theorem state_exchange (g : Generator σ) (s : GeneratorSession σ) (path : String) :
    (s.exchange g path).2.state = (g.send s.state (requestBytes path)).state := by
  have hexchanged := exchanged_exchange g s path
  generalize s.exchange g path = r at hexchanged
  cases hexchanged <;> rfl

/-- An exchange leaves it to the query to say whether the session can be used. -/
theorem ready_exchange (g : Generator σ) (s : GeneratorSession σ) (path : String) :
    (s.exchange g path).2.ready = s.ready := by
  have hexchanged := exchanged_exchange g s path
  generalize s.exchange g path = r at hexchanged
  cases hexchanged <;> rfl

/-- Only a query can be refused. -/
theorem exchange_ne_dead (g : Generator σ) (s : GeneratorSession σ) (path : String) :
    (s.exchange g path).1 ≠ .error .dead := by
  have hexchanged := exchanged_exchange g s path
  generalize s.exchange g path = r at hexchanged
  cases hexchanged with
  | @unsent taken stop => exact fun h => stop.error_ne_dead (Except.error.inj h)
  | unmatched => simp
  | unanswered => exact fun h => GeneratorError.atEnd_ne_dead _ _ (Except.error.inj h)
  | answered => simp

/-! ## One query -/

theorem query_of_exchange_ok {tags : TagSet} (hready : s.ready = true)
    (h : s.exchange g path = (.ok tags, t)) : s.query g path = (.ok tags, t) := by
  rw [query, if_pos hready, h]

theorem query_of_exchange_error {e : GeneratorError} (hready : s.ready = true)
    (h : s.exchange g path = (.error e, t)) :
    s.query g path = (.error e, { t with ready := false }) := by
  rw [query, if_pos hready, h]

/-- A query that is refused touches nothing. -/
theorem query_of_dead (h : s.ready = false) (g : Generator σ) (path : String) :
    s.query g path = (.error .dead, s) := by
  rw [query, if_neg (by simp [h])]

/-- A query of a ready session fails and leaves it dead, or it keeps the session ready. It is never
refused. -/
theorem query_of_ready (h : s.ready = true) (g : Generator σ) (path : String) :
    (∃ tags, (s.query g path).1 = .ok tags ∧ (s.query g path).2.ready = true) ∨
    ∃ e, e ≠ .dead ∧ (s.query g path).1 = .error e ∧ (s.query g path).2.ready = false := by
  have hdead := exchange_ne_dead g s path
  have hkept := ready_exchange g s path
  cases hexchange : s.exchange g path with
  | mk result t =>
    rw [hexchange] at hdead hkept
    cases result with
    | ok tags =>
      rw [query_of_exchange_ok h hexchange]
      exact .inl ⟨tags, rfl, hkept.trans h⟩
    | error e =>
      rw [query_of_exchange_error h hexchange]
      exact .inr ⟨e, fun he => hdead (congrArg _ he), rfl, rfl⟩

/-- A query of a ready session sends its request once. -/
theorem state_query (h : s.ready = true) (g : Generator σ) (path : String) :
    (s.query g path).2.state = (g.send s.state (requestBytes path)).state := by
  rw [← state_exchange, query, if_pos h]
  split <;> next hexchange => rw [hexchange]

/-- An answer to a query is that of an exchange. -/
theorem exchange_of_query_ok {tags : TagSet} (h : s.query g path = (.ok tags, t)) :
    s.ready = true ∧ s.exchange g path = (.ok tags, t) := by
  cases hready : s.ready with
  | false =>
    rw [query_of_dead hready] at h
    cases h
  | true =>
    refine ⟨rfl, ?_⟩
    rw [query, if_pos hready] at h
    split at h
    · next hexchange => exact hexchange.trans h
    · cases h

/-- A request with an answer was taken as a whole. -/
theorem stop_of_query_ok {tags : TagSet} (h : s.query g path = (.ok tags, t)) :
    (g.send s.state (requestBytes path)).stop = none := by
  have hexchanged := exchanged_exchange g s path
  rw [(exchange_of_query_ok h).2] at hexchanged
  cases hexchanged with
  | answered send pattern answer => exact send

/-- The definitions of any generator are such as lines report for the path, whatever it writes. -/
theorem query_eq_ok {tags : TagSet} (h : (s.query g path).1 = .ok tags) :
    ∃ ds : List Definition, tags = ds.foldl TagSet.insertDefinition (.empty path) ∧
      ∀ d ∈ ds, ∃ line, Definition.parse? path (replyText line) = some d := by
  obtain ⟨t, hquery⟩ : ∃ t, s.query g path = (.ok tags, t) := ⟨_, Prod.ext h rfl⟩
  obtain ⟨-, hexchange⟩ := exchange_of_query_ok hquery
  have hexchanged := exchanged_exchange g s path
  rw [hexchange] at hexchanged
  cases hexchanged with
  | answered send pattern answer => exact readAnswer_eq_some answer

/-! ## Queries in turn -/

theorem queries_cons (h : (s.query g path).1 ≠ .error .stalled) (paths : List String) :
    queries g s (path :: paths) = s.query g path :: queries g (s.query g path).2 paths := by
  rw [queries]
  split
  · next hquery => exact absurd (congrArg Prod.fst hquery) h
  · next hquery => rw [hquery]

theorem queries_cons_of_stalled (h : (s.query g path).1 = .error .stalled) (paths : List String) :
    queries g s (path :: paths) = [s.query g path] := by
  obtain ⟨t, hquery⟩ : ∃ t, s.query g path = (.error .stalled, t) := ⟨_, Prod.ext h rfl⟩
  rw [queries, hquery]

theorem queries_cons_of_ok {tags : TagSet} (h : (s.query g path).1 = .ok tags)
    (paths : List String) :
    queries g s (path :: paths) = s.query g path :: queries g (s.query g path).2 paths :=
  queries_cons (by simp [h]) paths

/-- The results begin with that of the first query. -/
theorem exists_queries_cons (g : Generator σ) (s : GeneratorSession σ) (path : String)
    (paths : List String) : ∃ later, queries g s (path :: paths) = s.query g path :: later := by
  by_cases hstalled : (s.query g path).1 = .error .stalled
  · exact ⟨[], queries_cons_of_stalled hstalled paths⟩
  · exact ⟨_, queries_cons hstalled paths⟩

theorem getElem?_zero_queries (g : Generator σ) (s : GeneratorSession σ) (path : String)
    (paths : List String) : (queries g s (path :: paths))[0]? = some (s.query g path) := by
  obtain ⟨later, hqueries⟩ := exists_queries_cons g s path paths
  rw [hqueries, List.getElem?_cons_zero]

/-- Each result is that of a query, and from there on the session goes on with the paths that are
left. -/
theorem exists_query_of_getElem? {paths : List String} {k : Nat}
    {r : Except GeneratorError TagSet × GeneratorSession σ} (h : (queries g s paths)[k]? = some r) :
    ∃ u path, u.query g path = r ∧
      (queries g s paths).drop k = queries g u (path :: paths.drop (k + 1)) := by
  induction k generalizing s paths with
  | zero =>
    cases paths with
    | nil => simp [queries] at h
    | cons path paths =>
      rw [getElem?_zero_queries, Option.some.injEq] at h
      exact ⟨s, path, h, rfl⟩
  | succ k ih =>
    cases paths with
    | nil => simp [queries] at h
    | cons path paths =>
      by_cases hstalled : (s.query g path).1 = .error .stalled
      · simp [queries_cons_of_stalled hstalled] at h
      · rw [queries_cons hstalled] at h ⊢
        exact ih h

/-- Behind a query that returns, the session that it has left goes on. -/
theorem drop_queries {paths : List String} {k : Nat} {result : Except GeneratorError TagSet}
    (h : (queries g s paths)[k]? = some (result, t)) (hresult : result ≠ .error .stalled) :
    (queries g s paths).drop (k + 1) = queries g t (paths.drop (k + 1)) := by
  obtain ⟨u, path, hquery, hdrop⟩ := exists_query_of_getElem? h
  rw [← List.drop_drop, hdrop, queries_cons (by rwa [hquery]), hquery]
  rfl

/-- Nothing is asked behind a query that stalls. -/
theorem drop_queries_of_stalled {paths : List String} {k : Nat}
    (h : (queries g s paths)[k]? = some (.error .stalled, t)) :
    (queries g s paths).drop (k + 1) = [] := by
  obtain ⟨u, path, hquery, hdrop⟩ := exists_query_of_getElem? h
  rw [← List.drop_drop, hdrop, queries_cons_of_stalled (by rw [hquery])]
  rfl

/-- Nothing changes in a dead session. -/
theorem queries_of_dead (h : s.ready = false) (g : Generator σ) (paths : List String) :
    queries g s paths = paths.map fun _ => (.error .dead, s) := by
  induction paths with
  | nil => rfl
  | cons path paths ih =>
    have hquery := query_of_dead h g path
    rw [queries_cons (by simp [hquery]), hquery, ih, List.map_cons]

end GeneratorSession

end CodeTags
