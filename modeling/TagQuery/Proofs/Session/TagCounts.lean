import TagQuery.Proofs.MatchText.Values
import TagQuery.Proofs.Query.Narrowing

/-!
# Counting the records with a value

A value is counted by a query of its own, which is made, compiled and asked on the spot.
Its stamp is one that no cache has seen, so that what is counted is what the query
accepts.  The value reaches the query as a match text, and is asked for only if the text
is read as that value.
-/

namespace TagQuery

/-! ## New queries -/

namespace SearchQuery

variable {q : SearchQuery} {store : RecordStore} {stamp : ℕ}

/-- A query that was never compiled finds what it accepts when it is compiled. -/
theorem search_fst_of_new (hnew : q.compiled = none)
    (hcaches : ∀ e ∈ store.entries, e.cache.Before stamp) (hstamp : stamp < 2 ^ 64) :
    (q.search store stamp).1 = store.records.filter fun r =>
      !r.locked && (q.compile store stamp).evaluate r := by
  have hrefresh : (q.refresh store stamp).1 = q.compile store stamp := by
    apply (refresh_fst_cases q store stamp).resolve_left
    rw [hnew]
    exact nofun
  have hagrees : ∀ e ∈ store.entries, (q.refresh store stamp).1.Agrees e := by
    intro e he known hknown
    have hnone := (hcaches e he).get?_eq_none (Nat.le_refl stamp) hstamp
    rw [hrefresh, compile] at hknown
    rw [hnone] at hknown
    contradiction
  have hverdict : ∀ r, (q.isNull || (q.compile store stamp).evaluate r) =
      (q.compile store stamp).evaluate r := by
    intro r
    cases hnull : q.isNull with
    | true =>
        rw [Bool.true_or, CompiledQuery.evaluate_of_isNull]
        exact compile_isNull hnull store stamp
    | false => exact Bool.false_or _
  have hfound := searchEntries_fst hagrees
  simp only [hrefresh, hverdict] at hfound
  rw [search, hfound]
  rfl

/-- A query for a value that is read as it was written accepts the records that hold it. -/
theorem evaluate_forTag {category value : String} (hplain : MatchText.IsPlain value)
    (hmarker : value ≠ noneMarker) (generation : ℕ) (store : RecordStore) (stamp : ℕ)
    (r : Record) :
    ((forTag generation category value).compile store stamp).evaluate r = true ↔
      r.Holds store.hierarchy category value := by
  have hblank : (new generation).Conjunctive category := by
    apply conjunctive_of_blank
    intro text htext
    simp [new] at htext
  have hnull : (new generation).isNull = true := rfl
  have hevaluate : ((forTag generation category value).compile store stamp).evaluate r = true ↔
      ((new generation).compile store stamp).evaluate r = true ∧
        r.Holds store.hierarchy category value :=
    hblank.evaluate_addAnd hmarker (MatchText.parse_escape_iff.mpr hplain) rfl rfl store stamp r
  rw [hevaluate, and_iff_right]
  exact CompiledQuery.evaluate_of_isNull (compile_isNull hnull store stamp) r

end SearchQuery

/-- The members of a group that are looked for are among the tags of the record. -/
instance (r : Record) (groups : TagTable) (category value : String) :
    Decidable (r.Reaches groups category value) :=
  decidable_of_iff (value ∈ r.tagsOf category ∨
      ∃ member ∈ (r.tagsOf category).toList, member ∈ groups.reachable value) <| by
    simp only [Record.Reaches, Std.ExtTreeSet.mem_toList, TagTable.mem_reachable_iff, and_comm]

namespace Session

variable {place : ℕ} {store : RecordStore} {category value : String}

/-- Whatever the value is, the records are counted that are not locked and accepted by the
query for what is written for the value. -/
theorem Dated.countByTag_eq {s : Session} (hs : s.Dated) (hstamp : s.stamp < 2 ^ 64)
    (hstore : s.stores[place]? = some store) :
    (s.countByTag place category value).map (·.1) = some (store.records.countP fun r =>
      !r.locked && ((SearchQuery.forTag (store.generations + 1) category value).compile store
        s.stamp).evaluate r) := by
  have hcaches := hs.cache_before store (List.mem_of_getElem? hstore)
  let q := SearchQuery.forTag (store.generations + 1) category value
  let drawn : RecordStore := { store with generations := store.generations + 2 }
  have hfound : (q.search drawn s.stamp).1 = drawn.records.filter fun r =>
      !r.locked && (q.compile drawn s.stamp).evaluate r :=
    SearchQuery.search_fst_of_new rfl hcaches hstamp
  -- The numbers of queries are of no matter for what they accept.
  have hcompile : ∀ r, (q.compile drawn s.stamp).evaluate r =
      (q.compile store s.stamp).evaluate r :=
    SearchQuery.evaluate_congr q rfl rfl s.stamp s.stamp
  simp only [hcompile] at hfound
  have hcount : (s.countByTag place category value).map (·.1) =
      some (q.search drawn s.stamp).1.length := by
    simp only [countByTag, RecordStore.countByTag, hstore, Option.bind_eq_bind, Option.bind_some,
      Option.pure_def, Option.map_some, q, drawn]
  rw [hcount, hfound, ← List.countP_eq_length_filter]
  rfl

/-- After any run, counting a value that is read as it was written, and is not the reserved
marker, gives the number of records of the store that are not locked and have the value or
something that its groups lead to. -/
theorem countByTag_eq_countP (actions : List Action)
    (hstamp : (start.run actions).stamp < 2 ^ 64)
    (hstore : (start.run actions).stores[place]? = some store)
    (hplain : MatchText.IsPlain value) (hmarker : value ≠ noneMarker) :
    ((start.run actions).countByTag place category value).map (·.1) =
      some (store.records.countP fun r =>
        !r.locked && decide (r.Reaches (store.hierarchy.groups category) category value)) := by
  have hsound := grouped_run actions store (List.mem_of_getElem? hstore)
  rw [(dated_run actions).countByTag_eq hstamp hstore]
  refine congrArg some (List.countP_congr fun r _ => ?_)
  simp only [Bool.and_eq_true, decide_eq_true_iff, hsound.reaches_iff,
    SearchQuery.evaluate_forTag hplain hmarker]

/-- Two values with ampersands lead to each other, and one of three records is locked. -/
theorem countByTag_eq_countP_of_cycle :
    let fixture : Fixture :=
      { records := [.addTag { fileName := "a.jpg" } "Music" "Rock & Roll",
          .addTag { fileName := "b.jpg" } "Music" "R&B",
          { Record.addTag { fileName := "c.jpg" } "Music" "R&B" with locked := true }]
        groups := (∅ : GroupTables).insert "Music"
          (((∅ : TagTable).insert "Rock & Roll" {"R&B"}).insert "R&B" {"Rock & Roll"}) }
    let actions := [Action.openStore fixture]
    (start.run actions).stamp < 2 ^ 64 ∧ MatchText.IsPlain "Rock & Roll" ∧
      "Rock & Roll" ≠ noneMarker ∧
      ((start.run actions).countByTag 0 "Music" "Rock & Roll").map (·.1) = some 2 := by
  intro fixture actions
  have hstamp : (start.run actions).stamp < 2 ^ 64 := by decide
  have hplain : MatchText.IsPlain "Rock & Roll" := by decide
  have hmarker : "Rock & Roll" ≠ noneMarker := by decide
  obtain ⟨store, hstore, hsame⟩ : ∃ store, (start.run actions).stores[0]? = some store ∧
      store = fixture.store 1 := ⟨_, rfl, rfl⟩
  refine ⟨hstamp, hplain, hmarker, ?_⟩
  rw [countByTag_eq_countP actions hstamp hstore hplain hmarker, hsame]
  decide +kernel

/-- Of three records one has the value, but what is written for the value is read as
something else: as two alternatives, as a negation, without its blank, as nothing, or as the
reserved marker. -/
theorem countByTag_ne_of_syntax :
    let fixture (value : String) : Fixture :=
      { records := [.addTag { fileName := "a.jpg" } "People" value, { fileName := "b.jpg" },
          { fileName := "c.jpg" }]
        groups := ∅ }
    let reached (value : String) : ℕ := (fixture value).records.countP fun r =>
      !r.locked && decide (r.Reaches ∅ "People" value)
    let counted (value : String) : Option ℕ :=
      ((start.run [.openStore (fixture value)]).countByTag 0 "People" value).map (·.1)
    ["A|B", "!A", " A", "", noneMarker].map reached = [1, 1, 1, 1, 1] ∧
      ["A|B", "!A", " A", "", noneMarker].map counted =
        [some 0, some 3, some 0, some 3, some 2] := by
  decide +kernel

end Session

end TagQuery
