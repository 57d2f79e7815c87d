/-
# Packed logs

`InMemoryPackedExperienceLog` of `crates/alife_core/src/packed_log.rs` appends the frame of
an accepted record to its frames and the side records to one common list, and returns
where they lie.  The references of a run tile the side records, and each cuts out exactly the
side records that were appended with it (`after_appended`); within a record the spans cut out
every side record exactly when they cover the buffer (`packed_spans_cover`).
-/

import ALife.Logging.PackedRecord
import ALife.Machine.Mutation

namespace ALife

open Machine

/-! ### What an accepted record promises -/

namespace PackedSideBufferSpans

theorem validateNext_eq_ok_iff {next stop : UInt32} {span : SideBufferSpan} :
    validateNext next span = .ok stop ↔
      span.toSpan.offset = next.toNat ∧ stop.toNat = span.toSpan.stop := by
  unfold validateNext SideBufferSpan.validateContract
  rw [contract_check_eq_ok_iff, contract_bind_eq_ok_iff, contract_check_eq_ok_iff,
    failIf_eq_ok_iff, not_not, SideBufferSpan.finish_eq_ok_iff]
  constructor
  · rintro ⟨-, rfl, hstop⟩
    exact ⟨rfl, hstop⟩
  · rintro ⟨hoffset, hstop⟩
    exact ⟨⟨stop, SideBufferSpan.finish_eq_ok_iff.2 hstop, rfl⟩, UInt32.toNat_inj.1 hoffset, hstop⟩

theorem foldlM_validateNext {all : List SideBufferSpan} {next stop : UInt32}
    (h : all.foldlM validateNext next = .ok stop) :
    Tiles next.toNat stop.toNat (all.map SideBufferSpan.toSpan) := by
  induction all generalizing next with
  | nil =>
    obtain rfl := Except.ok.inj h
    rfl
  | cons span all ih =>
    rw [List.foldlM_cons] at h
    obtain ⟨middle, hspan, h⟩ := contract_bind_eq_ok_iff.1 h
    obtain ⟨hoffset, hmiddle⟩ := validateNext_eq_ok_iff.1 hspan
    exact ⟨hoffset, hmiddle ▸ ih h⟩

/-- The end of the last span. -/
def stop (s : PackedSideBufferSpans) : ℕ := s.diagnosticExtras.toSpan.stop

theorem tiles_of_validateContract {s : PackedSideBufferSpans} (h : s.validateContract = .ok ()) :
    Tiles 0 s.stop s.spans := by
  unfold validateContract at h
  obtain ⟨last, hlast, -⟩ := contract_bind_eq_ok_iff.1 h
  have htiles := foldlM_validateNext hlast
  have hstop : last.toNat = s.stop := by
    obtain ⟨-, -, -, -, -, -, -, -, -, -, -, -, hend⟩ := htiles
    exact hend.symm
  rwa [hstop] at htiles

theorem of_validateAgainstLen {s : PackedSideBufferSpans} {len : ℕ}
    (h : s.validateAgainstLen len = .ok ()) : len < 2 ^ 32 ∧ s.stop ≤ len := by
  unfold validateAgainstLen at h
  rw [contract_seq_eq_ok_iff, failIf_eq_ok_iff, not_le, contract_forM_eq_ok_iff] at h
  obtain ⟨hlen, hspans⟩ := h
  have hlast := hspans s.diagnosticExtras (by simp [all])
  unfold SideBufferSpan.validateAgainstLen at hlast
  obtain ⟨stop, hstop, hbound⟩ := contract_bind_eq_ok_iff.1 hlast
  have hle : stop ≤ len.toUInt32 := by
    by_contra hnot
    rw [if_neg hnot] at hbound
    cases hbound
  rw [UInt32.le_iff_toNat_le, SideBufferSpan.finish_eq_ok_iff.1 hstop] at hle
  have hword : len.toUInt32.toNat = len := UInt32.toNat_ofNat_of_lt' hlen
  exact ⟨hlen, hword ▸ hle⟩

/-- The counts of spans that tile are added up without overflow. -/
theorem foldlM_count {all : List SideBufferSpan} {acc : UInt32}
    (h : acc.toNat + ((all.map SideBufferSpan.toSpan).map Span.count).sum < 2 ^ 32) :
    ∃ total : UInt32, all.foldlM (fun acc span =>
        getOr (checkedAdd32 acc span.count) ScaffoldContractError.packedLogSideBufferOverflow) acc
          = .ok total ∧
      total.toNat = acc.toNat + ((all.map SideBufferSpan.toSpan).map Span.count).sum := by
  induction all generalizing acc with
  | nil => exact ⟨acc, rfl, rfl⟩
  | cons span all ih =>
    rw [List.map_cons, List.map_cons, List.sum_cons, ← Nat.add_assoc] at h ⊢
    have hnext : (acc + span.count).toNat = acc.toNat + span.toSpan.count :=
      toNat_add_of_lt32 ((Nat.le_add_right ..).trans_lt h)
    rw [← hnext] at h ⊢
    obtain ⟨total, hrest, htotal⟩ := ih h
    refine ⟨total, ?_, htotal⟩
    rw [List.foldlM_cons]
    refine contract_bind_eq_ok_iff.2 ⟨acc + span.count, ?_, hrest⟩
    rw [getOr_eq_ok_iff, checkedAdd32_eq_some_iff, hnext]
    rfl

end PackedSideBufferSpans

theorem PackedExperienceFrame.validateContract_spans {f : PackedExperienceFrame}
    (h : f.validateContract = .ok ()) : f.sideBufferSpans.validateContract = .ok () := by
  unfold validateContract at h
  simp only [contract_seq_eq_ok_iff] at h
  tauto

namespace PackedExperienceRecord

/-- The spans cover the side records: the last one ends with the buffer. -/
def Covered (r : PackedExperienceRecord) : Prop :=
  r.frame.sideBufferSpans.stop = r.sideBuffers.length

instance (r : PackedExperienceRecord) : Decidable r.Covered := inferInstanceAs (Decidable (_ = _))

variable {r : PackedExperienceRecord}

theorem spans_of_validateContract (h : r.validateContract = .ok ()) :
    Tiles 0 r.frame.sideBufferSpans.stop r.frame.sideBufferSpans.spans ∧
      r.sideBuffers.length < 2 ^ 32 ∧
      r.frame.sideBufferSpans.stop ≤ r.sideBuffers.length := by
  unfold validateContract at h
  rw [contract_seq_eq_ok_iff, contract_seq_eq_ok_iff] at h
  obtain ⟨hframe, -, hlen⟩ := h
  exact ⟨PackedSideBufferSpans.tiles_of_validateContract
    (PackedExperienceFrame.validateContract_spans hframe),
    PackedSideBufferSpans.of_validateAgainstLen hlen⟩

/-- The count that `inspect_lossy` reports is where the last span ends. -/
theorem inspectLossy_of_validateContract (h : r.validateContract = .ok ()) :
    ∃ summary, r.inspectLossy = .ok summary ∧
      summary.sideBufferRecordCount.toNat = r.frame.sideBufferSpans.stop := by
  obtain ⟨htiles, hlen, hle⟩ := spans_of_validateContract h
  have hframe : r.frame.validateContract = .ok () := by
    unfold validateContract at h
    rw [contract_seq_eq_ok_iff] at h
    exact h.1
  have hsum := htiles.stop_eq
  rw [Nat.zero_add] at hsum
  have hroom : (0 : UInt32).toNat
      + ((r.frame.sideBufferSpans.all.map SideBufferSpan.toSpan).map Span.count).sum < 2 ^ 32 := by
    rw [UInt32.toNat_zero, Nat.zero_add, ← PackedSideBufferSpans.spans, ← hsum]
    omega
  obtain ⟨total, htotal, hvalue⟩ := PackedSideBufferSpans.foldlM_count hroom
  rw [UInt32.toNat_zero, Nat.zero_add, ← PackedSideBufferSpans.spans, ← hsum] at hvalue
  refine ⟨r.frame.summary total, ?_, hvalue⟩
  unfold inspectLossy PackedExperienceFrame.inspectLossy
  refine contract_check_eq_ok_iff.2 ⟨h, contract_check_eq_ok_iff.2 ⟨hframe, ?_⟩⟩
  exact contract_bind_eq_ok_iff.2 ⟨total, htotal, rfl⟩

/-- The groups of side records that the spans cut out, one after the other. -/
def groups (r : PackedExperienceRecord) (sideBuffers : List PackedSideBufferRecord) :
    List (List PackedSideBufferRecord) := r.frame.sideBufferSpans.spans.map (cut sideBuffers)

/-- **The spans of an accepted record** partition its side records exactly when they cover
them, and only then the reported count is the number of side records and the groups give
back all of them. -/
theorem spans_cover_iff (h : r.validateContract = .ok ()) :
    (Tiles 0 r.sideBuffers.length r.frame.sideBufferSpans.spans ↔ r.Covered) ∧
      ((∃ summary, r.inspectLossy = .ok summary ∧
        summary.sideBufferRecordCount.toNat = r.sideBuffers.length) ↔ r.Covered) ∧
      ((r.groups r.sideBuffers).flatten = r.sideBuffers ↔ r.Covered) := by
  obtain ⟨htiles, hlen, hle⟩ := spans_of_validateContract h
  refine ⟨⟨fun hall => htiles.unique hall, fun hcovered => ?_⟩, ⟨?_, fun hcovered => ?_⟩, ?_⟩
  · rw [← hcovered]
    exact htiles
  · rintro ⟨summary, hsummary, hcount⟩
    obtain ⟨summary', hsummary', hstop⟩ := inspectLossy_of_validateContract h
    obtain rfl := Except.ok.inj (hsummary.symm.trans hsummary')
    exact hstop.symm.trans hcount
  · rw [← hcovered]
    exact inspectLossy_of_validateContract h
  · rw [groups, ← List.flatMap_def, htiles.flatMap_cut hle, Nat.sub_zero, List.drop_zero]
    constructor
    · intro hall
      have hlength := congrArg List.length hall
      rw [List.length_take] at hlength
      exact le_antisymm hle (by omega)
    · intro hcovered
      rw [hcovered, List.take_length]

end PackedExperienceRecord

/-! ### Logs in memory -/

structure PackedLogEntryRef where
  frameIndex : UInt32
  sideBufferOffset : UInt32
  sideBufferCount : UInt32
  deriving DecidableEq, Repr

/-- Where the side records of an entry lie. -/
def PackedLogEntryRef.span (e : PackedLogEntryRef) : Span :=
  ⟨e.sideBufferOffset.toNat, e.sideBufferCount.toNat⟩

structure InMemoryPackedExperienceLog where
  frames : List PackedExperienceFrame
  sideRecords : List PackedSideBufferRecord
  maxFrames : ℕ
  maxSideRecords : ℕ
  deriving DecidableEq, Repr

namespace InMemoryPackedExperienceLog

/-- `InMemoryPackedExperienceLog::bounded`. -/
def bounded (maxFrames maxSideRecords : ℕ) : Contract InMemoryPackedExperienceLog := do
  failIf (2 ^ 32 ≤ maxFrames) .packedLogFrameCapacityExceeded
  failIf (2 ^ 32 ≤ maxSideRecords) .packedLogSideBufferOverflow
  pure ⟨[], [], maxFrames, maxSideRecords⟩

/-- `u32::try_from` of a length. -/
def tryIndex (n : ℕ) (e : ScaffoldContractError) : Contract UInt32 :=
  if n < 2 ^ 32 then .ok n.toUInt32 else .error e

/-- `append`. -/
def append (record : PackedExperienceRecord) :
    EStateM ScaffoldContractError InMemoryPackedExperienceLog PackedLogEntryRef := do
  let log ← get
  ofResult record.validateContract
  ofResult (failIf (log.frames.length = log.maxFrames) .packedLogFrameCapacityExceeded)
  let sideCount := record.sideBuffers.length
  ofResult (failIf (log.maxSideRecords < min (log.sideRecords.length + sideCount) (2 ^ 64 - 1))
    .packedLogSideBufferOverflow)
  let frameIndex ← ofResult (tryIndex log.frames.length .packedLogFrameCapacityExceeded)
  let sideBufferOffset ← ofResult (tryIndex log.sideRecords.length .packedLogSideBufferOverflow)
  let sideBufferCount ← ofResult (tryIndex sideCount .packedLogSideBufferOverflow)
  set { log with
    frames := log.frames ++ [record.frame]
    sideRecords := log.sideRecords ++ record.sideBuffers }
  pure ⟨frameIndex, sideBufferOffset, sideBufferCount⟩

/-- An appended record with the reference that was returned for it. -/
abbrev Entry : Type := PackedExperienceRecord × PackedLogEntryRef

/-- A call of `append`: the log it leaves, and the entries so far. -/
def appendStep (s : InMemoryPackedExperienceLog × List Entry) (record : PackedExperienceRecord) :
    InMemoryPackedExperienceLog × List Entry :=
  match append record s.1 with
  | .ok ref log => (log, s.2 ++ [(record, ref)])
  | .error _ log => (log, s.2)

/-- The log after a history of calls, and the entries that were appended. -/
def after (log : InMemoryPackedExperienceLog) (records : List PackedExperienceRecord) :
    InMemoryPackedExperienceLog × List Entry := records.foldl appendStep (log, [])

theorem tryIndex_eq_ok_iff {n : ℕ} {e : ScaffoldContractError} {v : UInt32} :
    tryIndex n e = .ok v ↔ v.toNat = n := by
  unfold tryIndex
  split_ifs with h
  · rw [Except.ok.injEq, ← UInt32.toNat_inj, UInt32.toNat_ofNat_of_lt' h, eq_comm]
  · have := v.toNat_lt
    simp
    omega

/-- An accepted record goes to the end of both lists. -/
theorem append_eq_ok {log log' : InMemoryPackedExperienceLog} {record : PackedExperienceRecord}
    {ref : PackedLogEntryRef} (h : append record log = .ok ref log') :
    record.validateContract = .ok () ∧
      log' = { log with
        frames := log.frames ++ [record.frame]
        sideRecords := log.sideRecords ++ record.sideBuffers } ∧
      ref.frameIndex.toNat = log.frames.length ∧
      ref.span = ⟨log.sideRecords.length, record.sideBuffers.length⟩ := by
  unfold append at h
  rw [bind_apply, get_apply] at h
  obtain ⟨_, hvalid, h⟩ := ofResult_bind_eq_ok_iff.1 h
  obtain ⟨_, -, h⟩ := ofResult_bind_eq_ok_iff.1 h
  obtain ⟨_, -, h⟩ := ofResult_bind_eq_ok_iff.1 h
  obtain ⟨frameIndex, hindex, h⟩ := ofResult_bind_eq_ok_iff.1 h
  obtain ⟨offset, hoffset, h⟩ := ofResult_bind_eq_ok_iff.1 h
  obtain ⟨count, hcount, h⟩ := ofResult_bind_eq_ok_iff.1 h
  cases h
  rw [tryIndex_eq_ok_iff] at hindex hoffset hcount
  refine ⟨hvalid, rfl, hindex, ?_⟩
  rw [PackedLogEntryRef.span, hoffset, hcount]

/-- A refused append changes nothing. -/
theorem append_error {log log' : InMemoryPackedExperienceLog} {record : PackedExperienceRecord}
    {e : ScaffoldContractError} (h : append record log = .error e log') : log' = log := by
  refine (?_ : KeepsOnError (append record) log) e log' h
  refine keepsOnError_get (keepsOnError_bind fun _ _ => keepsOnError_bind fun _ _ =>
    keepsOnError_bind fun _ _ => keepsOnError_bind fun _ _ => keepsOnError_bind fun _ _ =>
    keepsOnError_bind fun _ _ => keepsOnError_set)

/-- What a run from `start` appended. -/
structure Appended (start log : InMemoryPackedExperienceLog) (entries : List Entry) : Prop where
  frames : log.frames = start.frames ++ entries.map fun e => e.1.frame
  sideRecords : log.sideRecords = start.sideRecords ++ entries.flatMap fun e => e.1.sideBuffers
  tiles : Tiles start.sideRecords.length log.sideRecords.length (entries.map fun e => e.2.span)
  valid : ∀ e ∈ entries, e.1.validateContract = .ok ()
  frame : ∀ e ∈ entries, log.frames[e.2.frameIndex.toNat]? = some e.1.frame
  cut : ∀ e ∈ entries, Machine.cut log.sideRecords e.2.span = e.1.sideBuffers

theorem appended_nil (log : InMemoryPackedExperienceLog) : Appended log log [] where
  frames := (List.append_nil _).symm
  sideRecords := (List.append_nil _).symm
  tiles := rfl
  valid _ h := absurd h List.not_mem_nil
  frame _ h := absurd h List.not_mem_nil
  cut _ h := absurd h List.not_mem_nil

theorem Appended.append {start log log' : InMemoryPackedExperienceLog} {entries : List Entry}
    (h : Appended start log entries) {record : PackedExperienceRecord} {ref : PackedLogEntryRef}
    (happend : append record log = .ok ref log') :
    Appended start log' (entries ++ [(record, ref)]) := by
  obtain ⟨hvalid, rfl, hindex, hspan⟩ := append_eq_ok happend
  refine ⟨?_, ?_, ?_, ?_, ?_, ?_⟩
  · simp [h.frames]
  · simp [h.sideRecords]
  · rw [List.map_append, List.map_singleton, hspan, List.length_append]
    exact h.tiles.concat _
  · rw [List.forall_mem_append, List.forall_mem_singleton]
    exact ⟨h.valid, hvalid⟩
  · rw [List.forall_mem_append, List.forall_mem_singleton]
    refine ⟨fun e he => ?_, ?_⟩
    · have hframe := h.frame e he
      rw [List.getElem?_append_left (List.getElem?_eq_some_iff.1 hframe).1, hframe]
    · rw [hindex, List.getElem?_concat_length]
  · rw [List.forall_mem_append, List.forall_mem_singleton]
    refine ⟨fun e he => ?_, ?_⟩
    · have hstop := h.tiles.le_stop e.2.span (List.mem_map_of_mem he)
      rw [cut_append_left _ hstop, h.cut e he]
    · have hback := cut_append_right log.sideRecords record.sideBuffers
        ⟨0, record.sideBuffers.length⟩
      rwa [cut_all, Nat.add_zero, ← hspan] at hback

theorem Appended.appendStep {start : InMemoryPackedExperienceLog}
    {s : InMemoryPackedExperienceLog × List Entry} (h : Appended start s.1 s.2)
    (record : PackedExperienceRecord) :
    Appended start (appendStep s record).1 (appendStep s record).2 := by
  unfold InMemoryPackedExperienceLog.appendStep
  cases happend : InMemoryPackedExperienceLog.append record s.1 with
  | ok ref log => exact h.append happend
  | error e log =>
    rw [append_error happend]
    exact h

/-- **Every run of calls**: the references tile the appended side records, and each cuts out
those of its record. -/
theorem after_appended (log : InMemoryPackedExperienceLog)
    (records : List PackedExperienceRecord) :
    Appended log (after log records).1 (after log records).2 := by
  have hrun : ∀ s : InMemoryPackedExperienceLog × List Entry, Appended log s.1 s.2 →
      Appended log (records.foldl InMemoryPackedExperienceLog.appendStep s).1
        (records.foldl InMemoryPackedExperienceLog.appendStep s).2 := by
    induction records with
    | nil => exact fun _ h => h
    | cons record records ih => exact fun s h => ih _ (h.appendStep record)
  exact hrun (log, []) (appended_nil log)

end InMemoryPackedExperienceLog

open InMemoryPackedExperienceLog in
/-- **Packed logs** account for every side record of a record exactly when its spans cover
its buffer: in the record itself, in the count that is reported of it, and in every log it is
appended to. -/
theorem packed_spans_cover (record : PackedExperienceRecord) (log : InMemoryPackedExperienceLog)
    (records : List PackedExperienceRecord) :
    (record.validateContract = .ok () →
      ((Tiles 0 record.sideBuffers.length record.frame.sideBufferSpans.spans ∧
        ∃ summary, record.inspectLossy = .ok summary ∧
          summary.sideBufferRecordCount.toNat = record.sideBuffers.length) ↔ record.Covered)) ∧
    (Appended log (after log records).1 (after log records).2 ∧
      ∀ entry ∈ (after log records).2,
        ((entry.1.groups (cut (after log records).1.sideRecords entry.2.span)).flatten
          = entry.1.sideBuffers ↔ entry.1.Covered)) ∧
    ∀ (e : ScaffoldContractError) (log' : InMemoryPackedExperienceLog),
      append record log = .error e log' → log' = log := by
  refine ⟨fun hvalid => ?_, ?_, fun _ _ => append_error⟩
  · obtain ⟨htiles, hcount, -⟩ := record.spans_cover_iff hvalid
    rw [htiles, hcount, and_self]
  · have h := after_appended log records
    refine ⟨h, fun entry hentry => ?_⟩
    rw [h.cut entry hentry]
    exact (entry.1.spans_cover_iff (h.valid entry hentry)).2.2

/-- A frame with empty spans. -/
def sampleFrame : PackedExperienceFrame :=
  ⟨2, 4, 1, 2, 0, 1, 1, 7, 99, 10, 10, 11, 1, 3, 300, 0, ⟨#[.zero, .zero, .zero], rfl⟩,
    ⟨#[.zero, .zero, .zero, .one], rfl⟩, ⟨#[.zero, .zero, .zero], rfl⟩, .replicate 11 .zero,
    .replicate 11 .zero, .zero, .zero, .zero, .zero, .zero, .zero, .zero, .zero, .zero, .zero,
    .zero, .empty⟩

/-- A side record that no span names. -/
def looseRecord : PackedExperienceRecord :=
  ⟨sampleFrame, [⟨2, .memoryLink, 88, 0, .replicate 4 .zero, 0⟩]⟩

/-- The record is accepted, its spans end before its buffer and its report counts no side
record. -/
theorem looseRecord_loose :
    looseRecord.validateContract = .ok () ∧
      ¬Tiles 0 looseRecord.sideBuffers.length looseRecord.frame.sideBufferSpans.spans ∧
      looseRecord.sideBuffers.length = 1 ∧
      looseRecord.inspectLossy = .ok (sampleFrame.summary 0) := by
  refine ⟨by decide, by decide, rfl, by decide⟩

/-- The same side record under a span of its own. -/
def coveredRecord : PackedExperienceRecord :=
  ⟨{ sampleFrame with sideBufferSpans :=
      { PackedSideBufferSpans.empty with
        memoryLinks := ⟨0, 1⟩, conceptLinks := ⟨1, 0⟩, rankedActionProposals := ⟨1, 0⟩
        arbitrationDetails := ⟨1, 0⟩, semanticCodes := ⟨1, 0⟩, gaussianRefs := ⟨1, 0⟩
        teacherSchoolRefs := ⟨1, 0⟩, diagnosticExtras := ⟨1, 0⟩ } }, looseRecord.sideBuffers⟩

/-- Both records, and a log of two frames that refuses a third record. -/
theorem packed_spans_cover_looseRecord :
    ¬(Tiles 0 looseRecord.sideBuffers.length looseRecord.frame.sideBufferSpans.spans ∧
      ∃ summary, looseRecord.inspectLossy = .ok summary ∧
        summary.sideBufferRecordCount.toNat = looseRecord.sideBuffers.length) ∧
    (Tiles 0 1 coveredRecord.frame.sideBufferSpans.spans ∧
      ∃ summary, coveredRecord.inspectLossy = .ok summary ∧
        summary.sideBufferRecordCount.toNat = 1) ∧
    let s := InMemoryPackedExperienceLog.after ⟨[], [], 2, 2⟩
      [looseRecord, coveredRecord, coveredRecord]
    s.2 = [(looseRecord, ⟨0, 0, 1⟩), (coveredRecord, ⟨1, 1, 1⟩)] ∧
      (coveredRecord.groups (cut s.1.sideRecords ⟨1, 1⟩)).flatten = coveredRecord.sideBuffers ∧
      (looseRecord.groups (cut s.1.sideRecords ⟨0, 1⟩)).flatten ≠ looseRecord.sideBuffers ∧
      ∀ e log', InMemoryPackedExperienceLog.append coveredRecord s.1 = .error e log' →
        log' = s.1 := by
  have hloose : ¬looseRecord.Covered := by decide
  have hcovered : coveredRecord.Covered := by decide
  have hentries : (InMemoryPackedExperienceLog.after ⟨[], [], 2, 2⟩
      [looseRecord, coveredRecord, coveredRecord]).2
        = [(looseRecord, ⟨0, 0, 1⟩), (coveredRecord, ⟨1, 1, 1⟩)] := by decide
  obtain ⟨hrecord, ⟨-, hlog⟩, -⟩ := packed_spans_cover looseRecord ⟨[], [], 2, 2⟩
    [looseRecord, coveredRecord, coveredRecord]
  obtain ⟨hrecord', -, hrefused⟩ := packed_spans_cover coveredRecord
    (InMemoryPackedExperienceLog.after ⟨[], [], 2, 2⟩
      [looseRecord, coveredRecord, coveredRecord]).1 []
  rw [hentries] at hlog
  refine ⟨fun h => hloose ((hrecord (by decide)).1 h), (hrecord' (by decide)).2 hcovered,
    hentries, ?_, ?_, hrefused⟩
  · exact (hlog _ (List.mem_cons_of_mem _ List.mem_cons_self)).2 hcovered
  · exact fun h => hloose ((hlog _ List.mem_cons_self).1 h)

end ALife
