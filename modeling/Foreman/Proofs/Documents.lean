import Foreman.Codec.Documents
import Foreman.Proofs.Codecs

/-!
# `Foreman.Proofs.Documents` — stored data is a fixed point

Every type of the domain that is both written and read keeps what was read: what is written for it is
JSON and reads as the same data (`stored_data_is_stable`). Reading puts data into one form, whatever
form it stood in. It trims and folds the kinds of tasks, sorts sets, carries nanoseconds over, moves
instants to universal time, finds the fields of a list, and takes nothing for a missing option. Writing
that form changes nothing further.
-/

namespace Foreman

open Codec Codec.Fields

/-! ## Words -/

theorem TaskStatus.stable_codec : TaskStatus.codec.Stable :=
  stable_words fun s => by cases s <;> decide

theorem ExecutionMode.stable_codec : ExecutionMode.codec.Stable :=
  stable_words fun m => by cases m <;> decide

theorem TaskOutcome.stable_codec : TaskOutcome.codec.Stable :=
  stable_words fun o => by cases o <;> decide

theorem RunStatus.stable_codec : RunStatus.codec.Stable :=
  stable_words fun s => by cases s <;> decide

theorem MergeStrategy.stable_codec : MergeStrategy.codec.Stable :=
  stable_words fun s => by cases s <;> decide

theorem RecordStatus.stable_codec : RecordStatus.codec.Stable :=
  stable_words fun s => by cases s <;> decide

theorem EpisodeType.stable_codec : EpisodeType.codec.Stable :=
  stable_words fun t => by cases t <;> decide

theorem EpisodeOutcome.stable_codec : EpisodeOutcome.codec.Stable :=
  stable_words fun o => by cases o <;> decide

/-- A label is trimmed and folded once: the label of what was read is read as the same kind. -/
theorem TaskKind.stable_codec : TaskKind.codec.Stable := by
  refine stable_ofText fun s kind h => ?_
  have hkind : ofLabel s = kind := Option.some.inj h
  rw [← hkind]
  exact congrArg some (ofLabel_label s)

/-! ## Records -/

theorem Resources.stable_codec : Resources.codec.Stable :=
  stable_record
    (stable_required stable_nat32 <| stable_required stable_nat64 <|
      stable_required stable_bool stable_nil)
    (by decide) fun _ => rfl

theorem Task.stable_codec : Task.codec.Stable :=
  stable_record
    (stable_required stable_text <| stable_required stable_text <|
      stable_required TaskKind.stable_codec <| stable_required stable_any <|
      stable_required stable_names <| stable_required stable_duration <|
      stable_required Resources.stable_codec <|
      stable_required TaskStatus.stable_codec stable_nil)
    (by decide) fun _ => rfl

theorem Metadata.stable_codec : Metadata.codec.Stable :=
  stable_record
    (stable_required stable_text <| stable_required stable_timestamp <|
      stable_required stable_nat8 <| stable_required stable_duration <|
      stable_required stable_nat32 <| stable_required ExecutionMode.stable_codec stable_nil)
    (by decide) fun _ => rfl

theorem Workflow.stable_codec : Workflow.codec.Stable :=
  stable_record
    (stable_required stable_text <| stable_required stable_text <| stable_required stable_text <|
      stable_required (stable_list Task.stable_codec) <|
      stable_required (stable_map stable_names) <|
      stable_required Metadata.stable_codec stable_nil)
    (by decide) fun _ => rfl

theorem TaskResult.stable_codec : TaskResult.codec.Stable :=
  stable_record
    (stable_required stable_text <| stable_required TaskOutcome.stable_codec <|
      stable_optional stable_any present_any <| stable_optional stable_text present_text <|
      stable_required stable_duration <| stable_required stable_nat32 <|
      stable_optional stable_text present_text stable_nil)
    (by decide) fun _ => rfl

theorem Metrics.stable_codec : Metrics.codec.Stable :=
  stable_record
    (stable_required stable_nat64 <| stable_required stable_nat64 <|
      stable_required stable_nat64 <| stable_required stable_nat64 <|
      stable_required stable_nat64 <| stable_required stable_nat32 <|
      stable_required stable_nat64 <| stable_required stable_duration stable_nil)
    (by decide) fun _ => rfl

theorem RunResult.stable_codec : RunResult.codec.Stable :=
  stable_record
    (stable_required stable_text <| stable_required stable_bool <|
      stable_required RunStatus.stable_codec <|
      stable_required (stable_map TaskResult.stable_codec) <|
      stable_required (stable_list stable_text) <| stable_required (stable_list stable_text) <|
      stable_required (stable_map TaskStatus.stable_codec) <|
      stable_required Metrics.stable_codec stable_nil)
    (by decide) fun _ => rfl

theorem SessionScope.stable_codec : SessionScope.codec.Stable :=
  stable_record
    (stable_required (stable_list stable_text) <|
      stable_required (stable_list stable_text) stable_nil)
    (by decide) fun _ => rfl

theorem MergeReport.stable_codec : MergeReport.codec.Stable :=
  stable_record
    (stable_required stable_nat64 <| stable_required stable_nat64 <|
      stable_required stable_nat64 stable_nil)
    (by decide) fun _ => rfl

theorem Episode.stable_codec : Episode.codec.Stable :=
  stable_record
    (stable_required EpisodeType.stable_codec <| stable_required stable_text <|
      stable_required stable_text <| stable_required stable_text <|
      stable_required EpisodeOutcome.stable_codec <| stable_required stable_duration <|
      stable_required stable_nat32 <| stable_required (stable_list stable_text) <|
      stable_optional stable_text present_text <| stable_required stable_timestamp stable_nil)
    (by decide) fun _ => rfl

theorem TaskDefinition.stable_codec : TaskDefinition.codec.Stable :=
  stable_record
    (stable_required stable_text <| stable_required stable_text <|
      stable_optional stable_text present_text <|
      stable_optional stable_float present_float stable_nil)
    (by decide) fun _ => rfl

theorem RecordMetadata.stable_codec : RecordMetadata.codec.Stable :=
  stable_record
    (stable_optional stable_duration present_duration <|
      stable_optional stable_text present_text stable_nil)
    (by decide) fun _ => rfl

theorem PoolStatistics.stable_codec : PoolStatistics.codec.Stable :=
  stable_record
    (stable_required stable_nat64 <| stable_required stable_nat64 <|
      stable_required stable_nat64 <| stable_required stable_nat64 <|
      stable_required stable_nat64 <| stable_required stable_nat64 <|
      stable_required stable_nat64 <| stable_required stable_nat64 stable_nil)
    (by decide) fun _ => rfl

/-! ## All types -/

/-- **Stored data is a fixed point.** Whatever JSON value a type of the domain is read from, the value
    written for what was read is JSON and reads as the same data. The ids of episodes and of records are
    texts. -/
theorem stored_data_is_stable :
    TaskKind.codec.Stable ∧ TaskStatus.codec.Stable ∧ Resources.codec.Stable ∧ Task.codec.Stable ∧
    ExecutionMode.codec.Stable ∧ Metadata.codec.Stable ∧ Workflow.codec.Stable ∧
    TaskOutcome.codec.Stable ∧ TaskResult.codec.Stable ∧ RunStatus.codec.Stable ∧
    Metrics.codec.Stable ∧ RunResult.codec.Stable ∧ PoolStatistics.codec.Stable ∧
    text.Stable ∧ SessionScope.codec.Stable ∧ MergeStrategy.codec.Stable ∧
    MergeReport.codec.Stable ∧ EpisodeType.codec.Stable ∧ EpisodeOutcome.codec.Stable ∧
    Episode.codec.Stable ∧ TaskDefinition.codec.Stable ∧ RecordStatus.codec.Stable ∧
    RecordMetadata.codec.Stable :=
  ⟨TaskKind.stable_codec, TaskStatus.stable_codec, Resources.stable_codec, Task.stable_codec,
    ExecutionMode.stable_codec, Metadata.stable_codec, Workflow.stable_codec,
    TaskOutcome.stable_codec, TaskResult.stable_codec, RunStatus.stable_codec,
    Metrics.stable_codec, RunResult.stable_codec, PoolStatistics.stable_codec,
    stable_text, SessionScope.stable_codec, MergeStrategy.stable_codec,
    MergeReport.stable_codec, EpisodeType.stable_codec, EpisodeOutcome.stable_codec,
    Episode.stable_codec, TaskDefinition.stable_codec, RecordStatus.stable_codec,
    RecordMetadata.stable_codec⟩

/-- Settings in an unusual form: a list in place of a table, a leap second that is ahead of universal
    time, nanoseconds beyond a second, and a word as the only field of a table. -/
def unusualSettings : Value :=
  .list [.text "ann", .text "2024-02-29 23:59:60.5+01:30", .int 5,
    .list [.int 1, .int 1500000000], .int 3, .table [("parallel", .null)]]

theorem stored_data_is_stable_settings :
    ∃ m, Metadata.codec.decode unusualSettings = some m ∧
      m.createdAt = ⟨1709245799, 1500000000⟩ ∧ m.timeout.nanos = 2500000000 ∧
      Metadata.codec.Keeps m := by
  have hjson : unusualSettings.IsJson := by
    refine .list (List.forall_mem_cons.mpr ⟨.text _, List.forall_mem_cons.mpr ⟨.text _, ?_⟩⟩)
    refine List.forall_mem_cons.mpr ⟨.int (by decide) (by decide), ?_⟩
    refine List.forall_mem_cons.mpr ⟨.list ?_, ?_⟩
    · refine List.forall_mem_cons.mpr ⟨.int (by decide) (by decide), ?_⟩
      exact List.forall_mem_cons.mpr ⟨.int (by decide) (by decide), nofun⟩
    · refine List.forall_mem_cons.mpr ⟨.int (by decide) (by decide), ?_⟩
      refine List.forall_mem_cons.mpr ⟨.table (List.pairwise_singleton _ _) ?_, nofun⟩
      exact List.forall_mem_cons.mpr ⟨.null, nofun⟩
  have hparts : (Metadata.codec.decode unusualSettings).map
      (fun m => (m.createdAt, m.timeout.nanos)) = some (⟨1709245799, 1500000000⟩, 2500000000) := by
    decide +kernel
  obtain ⟨m, hm, heq⟩ := Option.map_eq_some_iff.mp hparts
  obtain ⟨-, -, -, -, -, hmetadata, -⟩ := stored_data_is_stable
  have hfields := Prod.mk.inj heq
  exact ⟨m, hm, hfields.1, hfields.2, hmetadata _ m hjson hm⟩

end Foreman
