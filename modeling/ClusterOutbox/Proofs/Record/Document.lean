import ClusterOutbox.Proofs.Text.LabelText
import ClusterOutbox.Proofs.Time.Rfc3339
import ClusterOutbox.Record.Document

namespace ClusterOutbox

namespace Json

/-- Characters that a string holds as they are. -/
def Plain (cs : List Char) : Prop := ∀ c ∈ cs, writeChar c = [c]

theorem Plain.append {cs ds : List Char} (hcs : Plain cs) (hds : Plain ds) : Plain (cs ++ ds) := by
  intro c hc
  rcases List.mem_append.mp hc with hc | hc
  · exact hcs c hc
  · exact hds c hc

theorem Plain.cons {c : Char} {cs : List Char} (hc : writeChar c = [c]) (hcs : Plain cs) :
    Plain (c :: cs) := List.forall_mem_cons.mpr ⟨hc, hcs⟩

theorem plain_nil : Plain [] := fun _ hc => absurd hc List.not_mem_nil

theorem plain_digits {cs : List Char} (h : cs.all isDecimalDigit = true) : Plain cs := by
  intro c hc
  obtain ⟨d, hd, -, rfl⟩ := digitValue?_cases (List.all_eq_true.mp h c hc)
  have hall : ∀ d < 10, writeChar (digitChar d) = [digitChar d] := by decide
  exact hall d hd

theorem flatMap_writeChar {cs : List Char} (h : Plain cs) : cs.flatMap writeChar = cs := by
  induction cs with
  | nil => rfl
  | cons c cs ih =>
    obtain ⟨hc, hcs⟩ := List.forall_mem_cons.mp h
    rw [List.flatMap_cons, hc, ih hcs]
    rfl

end Json

namespace Rfc3339

theorem plain_yearText (y : Int) : Json.Plain (yearText y) := by
  unfold yearText
  split
  · exact Json.plain_digits (all_fixedDigits 4 _)
  · refine .cons ?_ (Json.plain_digits (all_paddedDigits 4 _))
    split <;> decide

theorem plain_fractionText (nanos : Nat) : Json.Plain (fractionText nanos) := by
  have hpoint : ∀ width n, Json.Plain ('.' :: fixedDigits width n) :=
    fun width n => .cons (by decide) (Json.plain_digits (all_fixedDigits width n))
  unfold fractionText
  split
  · exact Json.plain_nil
  split
  · exact hpoint 3 _
  split
  · exact hpoint 6 _
  · exact hpoint 9 _

/-- The text of a time has nothing that a string must escape. -/
theorem plain_write (t : Stamp) : Json.Plain (write t) := by
  have hfield : ∀ {mark : Char} (n : Nat) {cs : List Char}, Json.writeChar mark = [mark] →
      Json.Plain cs → Json.Plain (cs ++ mark :: fixedDigits 2 n) :=
    fun n _ hmark hcs => hcs.append (.cons hmark (Json.plain_digits (all_fixedDigits 2 n)))
  have hmarked : Json.Plain (write t) :=
    ((hfield _ (by decide) <| hfield _ (by decide) <| hfield _ (by decide) <|
      hfield _ (by decide) <| hfield _ (by decide) <| plain_yearText _).append
        (plain_fractionText _)).append (.cons (by decide) Json.plain_nil)
  exact hmarked

end Rfc3339

namespace Record

/-- What the text of a time says. -/
def stampDocument (t : Stamp) : Json := .string (some (String.ofList (Rfc3339.write t)))

theorem reads_writeStamp (t : Stamp) : Json.Reads (writeStamp t) (stampDocument t) := by
  have hreads := Json.reads_string (String.ofList (Rfc3339.write t))
  rw [Json.writeString, String.toList_ofList, Json.flatMap_writeChar (Rfc3339.plain_write t)] at hreads
  exact hreads

theorem stamp?_stampDocument (t : Stamp) : stamp? (stampDocument t) = some t := by
  rw [stamp?, stampDocument, Json.text?, Option.bind_some, String.toList_ofList, Rfc3339.read_write]

section

variable {α : Type} {write : α → List Char} {document : α → Json} {read : Json → Option α}

/-- What the text of a part says that may be missing. -/
def optionalDocument (document : α → Json) : Option α → Json
  | some a => document a
  | none => .null

theorem reads_writeOptional (h : ∀ a, Json.Reads (write a) (document a)) (o : Option α) :
    Json.Reads (writeOptional write o) (optionalDocument document o) := by
  cases o with
  | none => exact Json.reads_null
  | some a => exact h a

/-- A part that is there and one that is missing read back as such: no part is written as null. -/
theorem optional?_optionalDocument (hread : ∀ a, read (document a) = some a)
    (hnull : ∀ a, document a ≠ .null) (o : Option α) :
    optional? read (some (optionalDocument document o)) = some o := by
  cases o with
  | none => rfl
  | some a =>
    have hpart := hread a
    change optional? read (some (document a)) = some (some a)
    cases hdocument : document a with
    | null => exact absurd hdocument (hnull a)
    | bool b | number n | string s | array items | object members =>
      rw [hdocument] at hpart
      simp only [optional?, hpart, Option.map_some]

end

theorem size?_decimalDigits (size : UInt64) :
    size? (.number ⟨false, decimalDigits size.toNat, none, none⟩) = some size := by
  have hlt : size.toNat < 18446744073709551616 := size.toNat_lt
  simp [size?, Numeral.isInteger, digitsValue_decimalDigits, hlt]

/-- The members of a record, each with what its text says. -/
def parts (r : Record) : List Json.Part := [
  ⟨"id", Json.writeString r.id, .string (some r.id), Json.reads_string r.id⟩,
  ⟨"kind", Json.writeString r.kind.name, .string (some r.kind.name),
    Json.reads_string r.kind.name⟩,
  ⟨"name", Json.writeString r.name, .string (some r.name), Json.reads_string r.name⟩,
  ⟨"namespace", writeOptional Json.writeString r.ns,
    optionalDocument (fun s => .string (some s)) r.ns, reads_writeOptional Json.reads_string r.ns⟩,
  ⟨"labels", writeOptional LabelMap.toJson r.labels,
    optionalDocument LabelMap.document r.labels, reads_writeOptional LabelMap.reads_toJson r.labels⟩,
  ⟨"annotations", writeOptional LabelMap.toJson r.annotations,
    optionalDocument LabelMap.document r.annotations,
    reads_writeOptional LabelMap.reads_toJson r.annotations⟩,
  ⟨"metric_labels", LabelMap.toJson r.metricLabels, LabelMap.document r.metricLabels,
    LabelMap.reads_toJson r.metricLabels⟩,
  ⟨"record_created", writeStamp r.created, stampDocument r.created, reads_writeStamp r.created⟩,
  ⟨"record_updated", writeStamp r.updated, stampDocument r.updated, reads_writeStamp r.updated⟩,
  ⟨"sent_at", writeOptional writeStamp r.sentAt, optionalDocument stampDocument r.sentAt,
    reads_writeOptional reads_writeStamp r.sentAt⟩,
  ⟨"size", decimalDigits r.size.toNat, .number ⟨false, decimalDigits r.size.toNat, none, none⟩,
    Json.reads_decimalDigits r.size.toNat⟩]

theorem read?_toJson (r : Record) :
    Json.read? r.toJson = some (.object (r.parts.map Json.Part.member)) :=
  Json.read?_of_reads (Json.reads_object r.parts)

/-- Whoever finds each part of a record under its name has the record. -/
theorem ofMembers?_parts (r : Record) {member : String → Option Json}
    (h : ∀ p ∈ r.parts, member p.key = some p.value) : ofMembers? member = some r := by
  simp only [parts, List.forall_mem_cons] at h
  obtain ⟨hid, hkind, hname, hns, hlabels, hannotations, hmetricLabels, hcreated, hupdated, hsentAt,
    hsize, -⟩ := h
  have htext : ∀ s, Json.text? (.string (some s)) = some s := fun _ => rfl
  have hkindName : kind? (.string (some r.kind.name)) = some r.kind := Kind.ofName?_name r.kind
  have hmaps := optional?_optionalDocument LabelMap.ofMembers?_document (fun _ => by
    rw [LabelMap.document]; exact Json.noConfusion)
  have htexts := optional?_optionalDocument htext (fun _ => Json.noConfusion)
  have htimes := optional?_optionalDocument stamp?_stampDocument (fun _ => Json.noConfusion)
  simp only [ofMembers?, hid, hkind, hname, hns, hlabels, hannotations, hmetricLabels, hcreated,
    hupdated, hsentAt, hsize, htext, hkindName, hmaps, htexts, htimes, stamp?_stampDocument,
    LabelMap.ofMembers?_document, size?_decimalDigits, Option.bind_eq_bind, Option.bind_some]

theorem keys_parts (r : Record) : r.parts.map Json.Part.key = memberNames := rfl

/-- In a list of members whose keys differ, each is found under its key. -/
theorem lookup_of_nodup {ps : List Json.Part} (h : (ps.map Json.Part.key).Nodup) {p : Json.Part}
    (hp : p ∈ ps) : (ps.map fun p => (p.key, p.value)).lookup p.key = some p.value := by
  obtain ⟨before, after, rfl⟩ := List.append_of_mem hp
  refine List.lookup_eq_some_iff.mpr ⟨before.map fun p => (p.key, p.value),
    after.map fun p => (p.key, p.value), by simp, ?_⟩
  intro e he
  obtain ⟨q, hq, rfl⟩ := List.mem_map.mp he
  rw [List.map_append, List.map_cons] at h
  have hne : q.key ≠ p.key :=
    (List.nodup_append.mp h).2.2 q.key (List.mem_map_of_mem hq) p.key List.mem_cons_self
  simpa using hne.symm

theorem membersOnce_of_nodup {members : List (String × Json)} (h : (members.map (·.1)).Nodup) :
    membersOnce members = true := by
  refine List.all_eq_true.mpr ?_
  intro name _
  have hcount : (members.filter (·.1 == name)).length = (members.map (·.1)).count name := by
    rw [List.count, List.countP_map, List.countP_eq_length_filter]
    rfl
  rw [hcount, decide_eq_true_eq]
  exact List.nodup_iff_count_le_one.mp h name

/-- A record reads back from its text as it was: each of its kinds and texts, maps that are missing
and maps that are empty, and times to the nanosecond. -/
theorem ofJson?_toJson_eq (r : Record) : ofJson? r.toJson = some r := by
  have hnodup : (r.parts.map Json.Part.key).Nodup := by
    rw [keys_parts]
    decide
  have honce : membersOnce (r.parts.map fun p => (p.key, p.value)) = true :=
    membersOnce_of_nodup (by rw [List.map_map]; exact hnodup)
  rw [ofJson?, read?_toJson]
  simp only [Option.bind_eq_bind, Option.bind_some, Json.members?_parts, honce, if_true]
  exact ofMembers?_parts r fun p hp => lookup_of_nodup hnodup hp

end Record

end ClusterOutbox
