import Foreman.Codec
import Foreman.Proofs.Maps
import Foreman.Proofs.Numbers
import Foreman.Proofs.Timestamps
import Mathlib.Data.List.Forall2

/-!
# `Foreman.Proofs.Codecs` — codecs that keep what they have read

Reading accepts more than is written: other words, sets with repeated members, durations with many
nanoseconds, instants with an offset, records as lists. So the value that is written need not be the
one that was read. But the data is the same when it is read again, if that holds of the parts. There is
one lemma for each way to make a codec.

## Contents
- **Keeping**: `Codec.Keeps` for single data gives `Codec.Stable`; `Present` for optional parts.
- **Plain codecs** and **containers**.
- **Records**: `Fields.Keeps` and `Fields.Stable`, from one field to the next; `stable_record`.
- **Durations**, which are always kept.
-/

namespace Foreman

variable {α β : Type}

theorem Value.isJson_ofFields {fields : List (String × Value)}
    (hnodup : (fields.map Prod.fst).Nodup) (h : ∀ e ∈ fields, e.2.IsJson) :
    (ofFields fields).IsJson :=
  .table (NameMap.ofList fields).ascending fun e he =>
    h e ((NameMap.entries_ofList_perm hnodup).mem_iff.mp he)

theorem mapM_eq_some_iff {f : α → Option β} {xs : List α} {ys : List β} :
    xs.mapM f = some ys ↔ List.Forall₂ (fun x y => f x = some y) xs ys := by
  induction xs generalizing ys with
  | nil =>
      simp only [List.mapM_nil, Option.pure_def, Option.some.injEq, List.forall₂_nil_left_iff, eq_comm]
  | cons x xs ih =>
      simp only [List.mapM_cons, Option.bind_eq_bind, Option.bind_eq_some_iff, Option.pure_def,
        Option.some.injEq, List.forall₂_cons_left_iff, ih]
      constructor
      · rintro ⟨y, hy, ys', hys, rfl⟩
        exact ⟨y, ys', hy, hys, rfl⟩
      · rintro ⟨y, ys', hy, hys, rfl⟩
        exact ⟨y, hy, ys', hys, rfl⟩

namespace Codec

variable {c : Codec α} {d : Codec β} {v : Value}

/-! ## Keeping -/

theorem stable_of_keeps (h : ∀ a, c.Keeps a) : c.Stable := fun _ a _ _ => h a

/-- Data that was read from something is not written as nothing. -/
def Present (c : Codec α) : Prop :=
  ∀ v a, v.IsJson → c.decode v = some a → v ≠ .null → c.encode a ≠ .null

theorem present_of_encode (h : ∀ a, c.encode a ≠ .null) : c.Present := fun _ a _ _ _ => h a

/-! ## Plain codecs -/

theorem stable_any : any.Stable := by
  intro v a hv h
  cases h
  exact ⟨hv, rfl⟩

theorem present_any : any.Present := by
  intro v a _ h hnull
  cases h
  exact hnull

theorem keeps_text (s : String) : text.Keeps s := ⟨.text s, rfl⟩

theorem stable_text : text.Stable := stable_of_keeps keeps_text

theorem present_text : text.Present := present_of_encode fun _ => nofun

theorem stable_bool : bool.Stable := stable_of_keeps fun b => ⟨.bool b, rfl⟩

theorem keeps_natBelow {bound n : Nat} (hbound : bound ≤ 2 ^ 64) (h : n < bound) :
    (natBelow bound).Keeps n := by
  have hrange : 0 ≤ (n : Int) ∧ (n : Int).toNat < bound := ⟨by omega, by omega⟩
  refine ⟨.int (by omega) (by omega), (if_pos hrange).trans ?_⟩
  rw [Int.toNat_natCast]

theorem stable_natBelow {bound : Nat} (hbound : bound ≤ 2 ^ 64) : (natBelow bound).Stable := by
  intro v n _ h
  refine keeps_natBelow hbound ?_
  cases v with
  | int i =>
      simp only [natBelow, Option.ite_none_right_eq_some, Option.some.injEq] at h
      omega
  | _ => cases h

theorem stable_nat8 : nat8.Stable := stable_natBelow (by decide)

theorem stable_nat32 : nat32.Stable := stable_natBelow (by decide)

theorem stable_nat64 : nat64.Stable := stable_natBelow (by decide)

theorem encode_float {x : Binary64} (hv : v.IsJson) (h : float.decode v = some x) :
    x.isFinite = true ∧ float.encode x = .float x := by
  have hfinite : x.isFinite = true := by
    cases hv with
    | float hfinite =>
        cases h
        exact hfinite
    | int hleast hmost =>
        cases h
        exact Binary64.isFinite_ofInt hleast hmost
    | _ => cases h
  exact ⟨hfinite, if_pos hfinite⟩

theorem stable_float : float.Stable := by
  intro v x hv h
  obtain ⟨hfinite, hencode⟩ := encode_float hv h
  unfold Keeps
  rw [hencode]
  exact ⟨.float hfinite, rfl⟩

theorem present_float : float.Present := by
  intro v x hv h _
  rw [(encode_float hv h).2]
  exact nofun

theorem stable_words {table : List (String × α)} {word : α → String}
    (h : ∀ a, lookupEntry (word a) table = some a) : (words table word).Stable :=
  stable_of_keeps fun a => ⟨.text _, h a⟩

/-- Whatever the texts are that can be read: it is enough that what was read has a text that reads as the
    same. -/
theorem stable_ofText {write : α → String} {read : String → Option α}
    (h : ∀ s a, read s = some a → read (write a) = some a) : (ofText write read).Stable := by
  intro v a _ hread
  refine ⟨.text _, ?_⟩
  cases v with
  | text s => exact h s a hread
  | _ => cases hread

theorem stable_timestamp : timestamp.Stable :=
  stable_ofText fun _ _ h => (Timestamp.inRange_of_parse? h).parse?_text

/-! ## Containers -/

theorem decode_option (hnull : v ≠ .null) : c.option.decode v = (c.decode v).map some := by
  simp only [option]

theorem keeps_none : c.option.Keeps none := ⟨.null, rfl⟩

theorem stable_option (h : c.Stable) (hpresent : c.Present) : c.option.Stable := by
  intro v a hv hread
  cases a with
  | none => exact keeps_none
  | some a =>
      have hnull : v ≠ .null := by
        rintro rfl
        cases hread
      rw [decode_option hnull, Option.map_eq_some_iff] at hread
      obtain ⟨b, hb, hab⟩ := hread
      cases hab
      obtain ⟨hjson, hkeeps⟩ := h v a hv hb
      refine ⟨hjson, ?_⟩
      -- had `a` been written as nothing, it would be read as missing
      change c.option.decode (c.encode a) = some (some a)
      rw [decode_option (hpresent v a hv hb hnull), hkeeps, Option.map_some]

theorem Stable.keeps_of_forall₂ (h : c.Stable) {vs : List Value} {as : List α}
    (hvs : ∀ v ∈ vs, v.IsJson) (hread : List.Forall₂ (fun v a => c.decode v = some a) vs as) :
    ∀ a ∈ as, c.Keeps a := by
  induction hread with
  | nil => exact nofun
  | cons hv _ ih =>
      intro a ha
      cases List.mem_cons.mp ha with
      | inl heq => exact heq ▸ h _ _ (hvs _ List.mem_cons_self) hv
      | inr hmem => exact ih (fun v hv => hvs v (List.mem_cons_of_mem _ hv)) a hmem

theorem keeps_list {as : List α} (h : ∀ a ∈ as, c.Keeps a) : (list c).Keeps as := by
  refine ⟨.list fun v hv => ?_, ?_⟩
  · obtain ⟨a, ha, rfl⟩ := List.mem_map.mp hv
    exact (h a ha).1
  · refine mapM_eq_some_iff.mpr ?_
    rw [List.forall₂_map_left_iff]
    exact List.forall₂_same.mpr fun a ha => (h a ha).2

theorem stable_list (h : c.Stable) : (list c).Stable := by
  intro v as hv hread
  cases hv with
  | list hvs => exact keeps_list (h.keeps_of_forall₂ hvs (mapM_eq_some_iff.mp hread))
  | _ => cases hread

theorem stable_names : names.Stable := by
  refine stable_of_keeps fun s => ?_
  have hkeeps : (list text).Keeps s.toList := keeps_list fun a _ => keeps_text a
  refine ⟨hkeeps.1, ?_⟩
  change ((list text).decode ((list text).encode s.toList)).map NameSet.ofList = some s
  rw [hkeeps.2, Option.map_some, NameSet.ofList_toList]

theorem keeps_map {m : NameMap β} (h : ∀ e ∈ m.entries, d.Keeps e.2) : (map d).Keeps m := by
  have hentries : (m.mapValues d.encode).entries = m.entries.map fun e => (e.1, d.encode e.2) := rfl
  refine ⟨.table (m.mapValues d.encode).ascending fun e he => ?_, ?_⟩
  · rw [hentries] at he
    obtain ⟨e', he', rfl⟩ := List.mem_map.mp he
    exact (h e' he').1
  · have hread : (m.entries.map fun e => (e.1, d.encode e.2)).mapM
        (fun e : String × Value => (d.decode e.2).map fun b => (e.1, b)) = some m.entries := by
      refine mapM_eq_some_iff.mpr (List.forall₂_map_left_iff.mpr ?_)
      refine List.forall₂_same.mpr fun e he => ?_
      rw [(h e he).2, Option.map_some]
    simp only [map, hentries, hread, Option.map_some, NameMap.ofList_entries]

theorem stable_map (h : d.Stable) : (map d).Stable := by
  intro v m hv hread
  cases hv with
  | @table fields hascending hfields =>
      obtain ⟨l, hl, rfl⟩ := Option.map_eq_some_iff.mp hread
      have hall : List.Forall₂ (fun e r => r.1 = e.1 ∧ d.decode e.2 = some r.2) fields l := by
        refine (mapM_eq_some_iff.mp hl).imp fun e r her => ?_
        obtain ⟨b, hb, rfl⟩ := Option.map_eq_some_iff.mp her
        exact ⟨rfl, hb⟩
      have hkeys : l.map Prod.fst = fields.map Prod.fst := by
        have hsame : List.Forall₂ (· = ·) (l.map Prod.fst) (fields.map Prod.fst) :=
          List.forall₂_map_left_iff.mpr
            (List.forall₂_map_right_iff.mpr (hall.flip.imp fun _ _ her => her.1))
        exact List.forall₂_eq_eq_eq ▸ hsame
      have hvalues : List.Forall₂ (fun v b => d.decode v = some b) (fields.map Prod.snd)
          (l.map Prod.snd) :=
        List.forall₂_map_left_iff.mpr
          (List.forall₂_map_right_iff.mpr (hall.imp fun _ _ her => her.2))
      have hjson : ∀ v ∈ fields.map Prod.snd, v.IsJson := fun v hv => by
        obtain ⟨e, he, rfl⟩ := List.mem_map.mp hv
        exact hfields e he
      -- a table has each key once, so no entry that was read has replaced another one
      have hnodup : (l.map Prod.fst).Nodup := by
        rw [hkeys]
        exact hascending.imp fun hlt heq => absurd (heq ▸ hlt) (String.lt_irrefl _)
      refine keeps_map fun e he => ?_
      have hmem := (NameMap.entries_ofList_perm hnodup).mem_iff.mp he
      exact h.keeps_of_forall₂ hjson hvalues e.2 (List.mem_map_of_mem hmem)
  | _ => cases hread

/-! ## Fields -/

theorem isJson_of_fieldValues? {names : List String} {least : Nat} {vs : List (Option Value)}
    (hv : v.IsJson) (h : fieldValues? names least v = some vs) : ∀ w, some w ∈ vs → w.IsJson := by
  intro w hw
  cases hv with
  | table _ heach =>
      simp only [fieldValues?, Option.some.injEq] at h
      rw [← h] at hw
      obtain ⟨name, _, hlook⟩ := List.mem_map.mp hw
      exact heach _ (mem_of_lookupEntry hlook)
  | list heach =>
      simp only [fieldValues?, Option.ite_none_right_eq_some, Option.some.injEq] at h
      rw [← h.2] at hw
      cases List.mem_append.mp hw with
      | inl hw =>
          obtain ⟨_, hw, heq⟩ := List.mem_map.mp hw
          cases heq
          exact heach w hw
      | inr hw => cases List.eq_of_mem_replicate hw
  | _ => cases h

/-- Fields are found in a table that was made of them. -/
theorem fieldValues?_ofFields {fields : List (String × Value)}
    (hnodup : (fields.map Prod.fst).Nodup) (least : Nat) :
    fieldValues? (fields.map Prod.fst) least (.ofFields fields) =
      some (fields.map fun e => some e.2) := by
  simp only [fieldValues?, Value.ofFields, List.map_map]
  refine congrArg some (List.map_congr_left fun e he => ?_)
  exact (NameMap.find?_ofList_of_nodup hnodup).mpr he

theorem onlyFields_ofFields {fields : List (String × Value)}
    (hnodup : (fields.map Prod.fst).Nodup) :
    onlyFields (fields.map Prod.fst) (.ofFields fields) = true := by
  refine List.all_eq_true.mpr fun e he => ?_
  have hmem := (NameMap.entries_ofList_perm hnodup).mem_iff.mp he
  exact List.contains_iff_mem.mpr (List.mem_map_of_mem hmem)

/-! ## Records -/

namespace Fields

variable {fields : Fields α} {rest : Fields β} {name : String} {a : α} {b : β}

/-- The written values of the fields are JSON, and they are read as the same data. -/
def Keeps (fields : Fields α) (a : α) : Prop :=
  (∀ e ∈ fields.written a, e.2.IsJson) ∧
    fields.read ((fields.written a).map fun e => some e.2) = some a

/-- What was read from values that are JSON is kept. -/
def Stable (fields : Fields α) : Prop :=
  ∀ vs a, (∀ v, some v ∈ vs → v.IsJson) → fields.read vs = some a → fields.Keeps a

theorem keeps_nil : nil.Keeps () := ⟨nofun, rfl⟩

theorem keeps_cons {missing : Option α} (h : c.Keeps a) (hrest : rest.Keeps b) :
    (cons name c missing rest).Keeps (a, b) := by
  constructor
  · intro e he
    cases List.mem_cons.mp he with
    | inl heq => exact heq ▸ h.1
    | inr hmem => exact hrest.1 e hmem
  · simp only [written, List.map_cons, read, List.head?_cons, List.tail_cons, fieldOr, h.2, hrest.2,
      Option.bind_eq_bind, Option.bind_some, Option.pure_def]

theorem stable_nil : nil.Stable := fun _ _ _ _ => keeps_nil

theorem stable_cons {missing : Option α} (h : c.Stable)
    (hmissing : ∀ a, missing = some a → c.Keeps a) (hrest : rest.Stable) :
    (cons name c missing rest).Stable := by
  intro vs ab hvs hread
  simp only [read, Option.bind_eq_bind, Option.bind_eq_some_iff, Option.pure_def,
    Option.some.injEq] at hread
  obtain ⟨v, hv, a, ha, b, hb, rfl⟩ := hread
  have hfirst : c.Keeps a := by
    cases v with
    | none => exact hmissing a ha
    | some v => exact h v a (hvs v (List.mem_of_mem_head? hv)) ha
  exact keeps_cons hfirst (hrest vs.tail b (fun v hv => hvs v (List.mem_of_mem_tail hv)) hb)

theorem stable_required (h : c.Stable) (hrest : rest.Stable) : (required name c rest).Stable :=
  stable_cons h nofun hrest

theorem stable_optional (h : c.Stable) (hpresent : c.Present) (hrest : rest.Stable) :
    (optional name c rest).Stable :=
  stable_cons (stable_option h hpresent) (fun a ha => by cases ha; exact keeps_none) hrest

theorem names_written (fields : Fields α) (a : α) :
    (fields.written a).map Prod.fst = fields.names := by
  induction fields with
  | nil => rfl
  | cons name c missing rest ih =>
      obtain ⟨a, b⟩ := a
      simp only [written, names, List.map_cons, ih]

theorem keeps_codec (h : fields.Keeps a) (hnodup : fields.names.Nodup) : fields.codec.Keeps a := by
  rw [← fields.names_written a] at hnodup
  have hvalues := fieldValues?_ofFields hnodup fields.names.length
  rw [fields.names_written a] at hvalues
  refine ⟨Value.isJson_ofFields hnodup h.1, ?_⟩
  simp only [codec, hvalues, Option.bind_some, h.2]

theorem onlyFields_codec (hnodup : fields.names.Nodup) (a : α) :
    onlyFields fields.names (fields.codec.encode a) = true := by
  rw [← fields.names_written a] at hnodup ⊢
  exact onlyFields_ofFields hnodup

theorem stable_codec (h : fields.Stable) (hnodup : fields.names.Nodup) : fields.codec.Stable := by
  intro v a hv hread
  obtain ⟨vs, hvs, hread⟩ := Option.bind_eq_some_iff.mp hread
  exact keeps_codec (h vs a (isJson_of_fieldValues? hv hvs) hread) hnodup

end Fields

/-- **A record is stable when its fields are**, their names differ, and its parts are the data it was
    made of. -/
theorem stable_record {fields : Fields β} {make : β → α} {parts : α → β} (h : fields.Stable)
    (hnodup : fields.names.Nodup) (hparts : ∀ b, parts (make b) = b) :
    (record fields make parts).Stable := by
  intro v a hv hread
  obtain ⟨b, hb, rfl⟩ := Option.map_eq_some_iff.mp hread
  obtain ⟨hjson, hkeeps⟩ := Fields.stable_codec h hnodup v b hv hb
  unfold Keeps
  simp only [record, hparts]
  exact ⟨hjson, by rw [hkeeps, Option.map_some]⟩

/-! ## Durations -/

theorem keeps_duration (d : Duration) : duration.Keeps d := by
  have hmax := d.le_max
  unfold maxNanos nanosPerSec at hmax
  have hsecs : d.secs < 2 ^ 64 := by
    unfold Duration.secs nanosPerSec
    omega
  have hnanos : d.subsecNanos < 2 ^ 32 := by
    unfold Duration.subsecNanos nanosPerSec
    omega
  have hsum : d.secs * nanosPerSec + d.subsecNanos = d.nanos := Nat.div_add_mod' _ _
  have hdistinct : durationFields.names.Nodup := by decide
  -- the parts as they are written, which need not be the ones that were read
  have hfields : durationFields.Keeps (d.secs, d.subsecNanos, ()) :=
    Fields.keeps_cons (keeps_natBelow (Nat.le_refl _) hsecs)
      (Fields.keeps_cons (keeps_natBelow (by decide) hnanos) Fields.keeps_nil)
  obtain ⟨hjson, hkeeps⟩ := Fields.keeps_codec hfields hdistinct
  have honly := Fields.onlyFields_codec hdistinct (d.secs, d.subsecNanos, ())
  have hdecode : duration.decode (duration.encode d) =
      (durationFields.codec.decode (durationFields.codec.encode (d.secs, d.subsecNanos, ()))).bind
        fun parts => Duration.ofNanos? (parts.1 * nanosPerSec + parts.2.1) := if_pos honly
  refine ⟨hjson, ?_⟩
  rw [hdecode, hkeeps, Option.bind_some, hsum, Duration.ofNanos?_nanos]

theorem stable_duration : duration.Stable := stable_of_keeps keeps_duration

theorem present_duration : duration.Present := present_of_encode fun _ => nofun

end Codec

end Foreman
