import RecordSieve.Proofs.ByteOrder
import RecordSieve.Proofs.Keys
import RecordSieve.Proofs.Run.LineEnds

/-!
# Keys and Runs

The collection of keys reads its input in a loop of its own, beside the one of the runs. Both agree
on what an input is: the keys can be collected exactly if a sieve without conditions can run, and if
not, the failure is the same. The keys are those of all the records, whatever the order of the
lines, so no run ends well that asks for any other field.

## Main definitions

* `KeysOf`: what the keys of a source are;
* `KeysAgree`: how the collection of keys and the runs over a source agree.

## Main statements

* `collectKeys_eq_ok_iff`: the keys are there if the reader does not fail and all lines are records;
* `Sieve.result_run_unconditional`: a sieve without conditions fails as the collection of keys does;
* `Sieve.field_mem_keys_of_judge`: a record that is decided has the fields of all conditions;
* `keysAgree_collectKeys`: the collection of keys and the runs agree on every source.
-/

namespace RecordSieve

/-! ### Records -/

theorem readRecord_eq_ok_iff {line : List UInt8} {number : Nat} {fields : Fields} :
    readRecord line number = .ok fields ↔ Json.decodeObject line = .ok fields := by
  unfold readRecord
  split <;> simp_all

section Records

variable {first : Nat} {ls : List (List UInt8)}

/-- Lines are records if each of them is one. -/
theorem exists_readRecords_iff :
    (∃ records, readRecords first ls = .ok records) ↔
      ∀ line ∈ ls, ∃ fields, Json.decodeObject line = .ok fields := by
  induction ls generalizing first with
  | nil => exact ⟨fun _ => List.forall_mem_nil _, fun _ => ⟨[], rfl⟩⟩
  | cons line ls ih =>
    rw [List.forall_mem_cons, ← ih]
    rcases hread : readRecord line first with failure | fields
    · rw [readRecords_cons_of_error hread]
      constructor
      · rintro ⟨_, ⟨⟩⟩
      · rintro ⟨⟨fields, hfields⟩, -⟩
        rw [readRecord_eq_ok_iff.2 hfields] at hread
        cases hread
    · rw [readRecords_cons_of_ok hread]
      have hline : ∃ fields, Json.decodeObject line = .ok fields :=
        ⟨fields, readRecord_eq_ok_iff.1 hread⟩
      cases readRecords (first + 1) ls <;> simp [Except.map, hline]

/-- The records on some lines are those on the single lines. -/
theorem mem_iff_of_readRecords {records : List Fields} (h : readRecords first ls = .ok records)
    {fields : Fields} :
    fields ∈ records ↔ ∃ line ∈ ls, Json.decodeObject line = .ok fields := by
  induction ls generalizing first records with
  | nil =>
    cases h
    simp
  | cons line ls ih =>
    rcases hread : readRecord line first with failure | record
    · rw [readRecords_cons_of_error hread] at h
      cases h
    · rw [readRecords_cons_of_ok hread] at h
      rcases hrest : readRecords (first + 1) ls with failure | others
      · rw [hrest] at h
        cases h
      · rw [hrest] at h
        cases h
        have hline : Json.decodeObject line = .ok fields ↔ fields = record := by
          rw [readRecord_eq_ok_iff.1 hread, Except.ok.injEq, eq_comm]
        simp only [List.mem_cons, exists_eq_or_imp, ih hrest, hline]

end Records

/-! ### Keys -/

section Keys

variable {source : Source} {keys others : List String}

/-- The keys are there if the reader does not fail and every line is a record. -/
theorem collectKeys_eq_ok_iff :
    collectKeys source = .ok keys ↔ source.failure = none ∧
      ∃ records, readRecords 1 source.lines = .ok records ∧
        keys = insertKeys [] (records.flatMap Fields.keys) := by
  rw [collectKeys, keysFrom_eq, Source.ending]
  rcases readRecords 1 source.lines with failure | records
  · simp [Except.bind]
  · cases source.failure <;> simp [Except.bind, eq_comm]

/-- The keys are those of the records on the lines. -/
theorem mem_iff_of_collectKeys (h : collectKeys source = .ok keys) (key : String) :
    key ∈ keys ↔ ∃ line ∈ source.lines, ∃ fields,
      Json.decodeObject line = .ok fields ∧ key ∈ fields.keys := by
  obtain ⟨-, records, hrecords, rfl⟩ := collectKeys_eq_ok_iff.1 h
  simp only [mem_insertKeys, List.not_mem_nil, false_or, List.mem_flatMap,
    mem_iff_of_readRecords hrecords]
  constructor
  · rintro ⟨fields, ⟨line, hline, hfields⟩, hkey⟩
    exact ⟨line, hline, fields, hfields, hkey⟩
  · rintro ⟨line, hline, fields, hfields, hkey⟩
    exact ⟨fields, ⟨line, hline, hfields⟩, hkey⟩

theorem pairwise_of_collectKeys (h : collectKeys source = .ok keys) : keys.Pairwise (· < ·) := by
  obtain ⟨-, records, -, rfl⟩ := collectKeys_eq_ok_iff.1 h
  exact pairwise_insertKeys .nil _

/-- Ascending keys are told by their members. -/
theorem eq_of_mem_iff (h : keys.Pairwise (· < ·)) (h' : others.Pairwise (· < ·))
    (hmem : ∀ key, key ∈ keys ↔ key ∈ others) : keys = others := by
  have hne {key other : String} (hlt : key < other) : key ≠ other := Std.ne_of_lt hlt
  have hperm : keys.Perm others :=
    (List.perm_ext_iff_of_nodup (h.imp hne) (h'.imp hne)).2 hmem
  exact List.Perm.eq_of_pairwise
    (fun _ _ _ _ hlt hgt => absurd (Std.lt_trans hlt hgt) (Std.lt_irrefl)) h h' hperm

theorem decodeObject_completed {line : List UInt8} {fields : Fields} :
    Json.decodeObject (completed line) = .ok fields ↔ Json.decodeObject line = .ok fields := by
  by_cases hfinished : IsFinished line
  · rw [completed_of_isFinished hfinished]
  · rw [completed_of_not_isFinished hfinished]
    exact Json.decodeObject_append (List.forall_mem_singleton.2 (.inl rfl)) line

/-- The same lines in another order have the same keys. -/
theorem collectKeys_of_mem_iff (h : collectKeys source = .ok keys) {other : Source}
    (hfailure : other.failure = none)
    (hmem : ∀ line, line ∈ other.lines.map completed ↔ line ∈ source.lines.map completed) :
    collectKeys other = .ok keys := by
  -- Each line of either source has its counterpart in the other one, which is the same record.
  have hcounterpart {ls ls' : List (List UInt8)} {line : List UInt8} (hline : line ∈ ls)
      (hsub : ∀ line, line ∈ ls.map completed → line ∈ ls'.map completed) :
      ∃ line' ∈ ls', ∀ fields,
        Json.decodeObject line' = .ok fields ↔ Json.decodeObject line = .ok fields := by
    obtain ⟨line', hline', heq⟩ := List.mem_map.1 (hsub _ (List.mem_map_of_mem hline))
    refine ⟨line', hline', fun fields => ?_⟩
    rw [← decodeObject_completed, heq, decodeObject_completed]
  obtain ⟨-, records, hrecords, -⟩ := collectKeys_eq_ok_iff.1 h
  obtain ⟨records', hrecords'⟩ : ∃ records, readRecords 1 other.lines = .ok records := by
    refine exists_readRecords_iff.2 fun line hline => ?_
    obtain ⟨line', hline', hsame⟩ := hcounterpart hline fun line => (hmem line).1
    obtain ⟨fields, hfields⟩ := exists_readRecords_iff.1 ⟨records, hrecords⟩ line' hline'
    exact ⟨fields, (hsame fields).1 hfields⟩
  have hother := collectKeys_eq_ok_iff.2 ⟨hfailure, records', hrecords', rfl⟩
  refine hother.trans (congrArg Except.ok ?_)
  refine eq_of_mem_iff (pairwise_of_collectKeys hother) (pairwise_of_collectKeys h) fun key => ?_
  rw [mem_iff_of_collectKeys hother, mem_iff_of_collectKeys h]
  constructor
  · rintro ⟨line, hline, fields, hfields, hkey⟩
    obtain ⟨line', hline', hsame⟩ := hcounterpart hline fun line => (hmem line).1
    exact ⟨line', hline', fields, (hsame fields).2 hfields, hkey⟩
  · rintro ⟨line, hline, fields, hfields, hkey⟩
    obtain ⟨line', hline', hsame⟩ := hcounterpart hline fun line => (hmem line).2
    exact ⟨line', hline', fields, (hsame fields).2 hfields, hkey⟩

end Keys

/-! ### Runs -/

namespace Sieve

/-- A run without conditions ends well or fails as the reading of the records does. -/
theorem result_runLines_unconditional (aggregation : Aggregation) (reverse : Bool)
    (failure : Option String) (counts : Summary) (ls : List (List UInt8)) :
    (runLines ⟨[], aggregation, reverse⟩ .reliable failure counts ls).result.map (fun _ => ()) =
      (readRecords (counts.records + 1) ls).bind fun _ =>
        match failure.map Failure.io with
        | none => .ok ()
        | some failure => .error failure := by
  induction ls generalizing counts with
  | nil => cases failure <;> rfl
  | cons line ls ih =>
    rcases hread : readRecord line (counts.records + 1) with cause | fields
    -- Both end here with the failure of the line.
    · rw [readRecords_cons_of_error hread]
      simp only [runLines, judge_of_readRecord_error hread]
      rfl
    · have hjudge : judge ⟨[], aggregation, reverse⟩ line (counts.records + 1) =
          .ok (aggregation.identity != reverse) := judge_of_readRecord hread
      rw [readRecords_cons_of_ok hread]
      simp only [runLines, hjudge]
      -- The line is kept or not, and the run goes on behind it.
      cases aggregation.identity != reverse with
      | false =>
        refine (ih ⟨counts.records + 1, counts.emitted⟩).trans ?_
        cases readRecords (counts.records + 1 + 1) ls <;> rfl
      | true =>
        refine (ih ⟨counts.records + 1, counts.emitted + 1⟩).trans ?_
        cases readRecords (counts.records + 1 + 1) ls <;> rfl

/-- A sieve without conditions ends well or fails as the collection of keys does. -/
theorem result_run_unconditional (aggregation : Aggregation) (reverse : Bool) (source : Source) :
    (run ⟨[], aggregation, reverse⟩ source .reliable).result.map (fun _ => ()) =
      (collectKeys source).map fun _ => () := by
  rw [run_eq_runLines, result_runLines_unconditional, collectKeys, keysFrom_eq, Source.ending]
  cases readRecords 1 source.lines with
  | error failure => rfl
  | ok records => cases source.failure <;> rfl

/-- A record that is decided has the fields of all the conditions. -/
theorem field_mem_keys_of_judge {sieve : Sieve} {line : List UInt8} {number : Nat} {kept : Bool}
    (h : sieve.judge line number = .ok kept) :
    ∃ fields, Json.decodeObject line = .ok fields ∧
      ∀ condition ∈ sieve.conditions, condition.field ∈ fields.keys := by
  rcases hread : readRecord line number with failure | fields
  · rw [judge_of_readRecord_error hread] at h
    cases h
  refine ⟨fields, readRecord_eq_ok_iff.1 hread, ?_⟩
  rw [judge_of_readRecord hread, keeps_eq] at h
  rcases hanswers : sieve.answers fields number with failure | answers
  · rw [hanswers] at h
    cases h
  -- A test that answers has found its field.
  intro condition hcondition
  obtain ⟨test, htest, rfl⟩ := List.mem_map.1 hcondition
  obtain ⟨answer, hanswer⟩ := exists_mapM_eq_ok_iff.1 ⟨answers, hanswers⟩ test htest
  unfold Test.run at hanswer
  split at hanswer
  · cases hanswer
  · next value hget =>
    obtain ⟨front, back, rfl, -⟩ := List.lookup_eq_some_iff.1 hget
    simp [Fields.keys]

end Sieve

/-- A run that ends well has decided the first line. -/
theorem Runs.exists_judge_of_ok {sieve : Sieve} {sink : Sink} {failure : Option String}
    {counts summary : Summary} {line : List UInt8} {rest : List (List UInt8)} {run : Run}
    (h : Runs sieve sink failure counts (line :: rest) run) (hok : run.result = .ok summary) :
    ∃ kept, sieve.judge line (counts.records + 1) = .ok kept := by
  cases h with
  | undecided => cases hok
  | dropped hjudge | unwritten hjudge | unflushed hjudge | emitted hjudge => exact ⟨_, hjudge⟩

/-! ### Agreement -/

/-- What the keys of a source are. -/
structure KeysOf (source : Source) (keys : List String) : Prop where
  mem_iff : ∀ key, key ∈ keys ↔ ∃ line ∈ source.lines, ∃ fields,
    Json.decodeObject line = .ok fields ∧ key ∈ fields.keys
  nodup : keys.Nodup
  /-- The bytes of each key are smaller than those of the keys behind it. -/
  ascending : keys.Pairwise fun key other => Utf8.encode key.toList < Utf8.encode other.toList
  /-- The same lines in another order have the same keys, wherever a last newline is missing. -/
  unordered : ∀ other : Source, other.failure = none →
    (∀ line, line ∈ other.lines.map completed ↔ line ∈ source.lines.map completed) →
    collectKeys other = .ok keys
  /-- A run that ends well asks for none but these keys, unless there is no record to ask. -/
  asked : source.bytes ≠ [] → ∀ (sieve : Sieve) (sink : Sink) (counts : Summary),
    (sieve.run source sink).result = .ok counts →
    ∀ condition ∈ sieve.conditions, condition.field ∈ keys

/-- How the collection of keys and the runs over a source agree. -/
structure KeysAgree (source : Source) : Prop where
  /-- The keys cannot be collected exactly if a run without conditions fails, with the same
  failure. -/
  fails_iff : ∀ aggregation reverse, ∃ sieve,
    Sieve.ofConditions [] aggregation reverse = .ok sieve ∧ ∀ failure,
      collectKeys source = .error failure ↔ (sieve.run source .reliable).result = .error failure
  of_ok : ∀ keys, collectKeys source = .ok keys → KeysOf source keys

/-- The keys that are collected are those of the source. -/
theorem keysOf_collectKeys {source : Source} {keys : List String}
    (h : collectKeys source = .ok keys) : KeysOf source keys := by
  have hmem := mem_iff_of_collectKeys h
  have hascending := pairwise_of_collectKeys h
  obtain ⟨hfailure, -⟩ := collectKeys_eq_ok_iff.1 h
  refine ⟨hmem, hascending.imp Std.ne_of_lt, ?_, fun _ => collectKeys_of_mem_iff h, ?_⟩
  · exact hascending.imp fun {_ _} hlt => Utf8.encode_lt_encode_iff.2 hlt
  · intro hbytes sieve sink counts hok condition hcondition
    have hlines : source.lines = lines source.bytes := by rw [Source.lines, hfailure]
    obtain ⟨line, rest, hcons⟩ := List.exists_cons_of_ne_nil (lines_ne_nil hbytes)
    rw [hcons] at hlines
    have hruns := runs_run sieve source sink
    rw [hlines] at hruns
    -- The first record has been asked for every field, and its keys are among those collected.
    obtain ⟨kept, hjudge⟩ := hruns.exists_judge_of_ok hok
    obtain ⟨fields, hfields, hasked⟩ := Sieve.field_mem_keys_of_judge hjudge
    refine (hmem condition.field).2 ⟨line, ?_, fields, hfields, hasked condition hcondition⟩
    rw [hlines]
    exact List.mem_cons_self

/-- The collection of keys and the runs agree on every source. -/
theorem keysAgree_collectKeys (source : Source) : KeysAgree source := by
  refine ⟨?_, fun keys h => keysOf_collectKeys h⟩
  intro aggregation reverse
  refine ⟨⟨[], aggregation, reverse⟩, rfl, fun failure => ?_⟩
  have hresult := Sieve.result_run_unconditional aggregation reverse source
  -- Both end well, or both fail with one failure.
  generalize (Sieve.run ⟨[], aggregation, reverse⟩ source .reliable).result = result at hresult ⊢
  rcases hkeys : collectKeys source with cause | keys
  · rw [hkeys] at hresult
    cases result with
    | error other =>
      cases hresult
      rw [Except.error.injEq, Except.error.injEq]
    | ok counts => cases hresult
  · rw [hkeys] at hresult
    cases result with
    | error other => cases hresult
    | ok counts => exact ⟨nofun, nofun⟩

end RecordSieve
