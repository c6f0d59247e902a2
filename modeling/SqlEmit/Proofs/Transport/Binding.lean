import SqlEmit.Binding
import SqlEmit.Proofs.Digits
import SqlEmit.Proofs.Json.Decoding

/-! Identifiers, the physical schema and the bindings of a script are read back from what is written
for them. -/
namespace SqlEmit

open Json Decoder

instance : LawfulNamed TypeTag := ⟨by intro a; cases a <;> decide, by decide⟩

instance : LawfulNamed ColumnPurpose := ⟨by intro a; cases a <;> decide, by decide⟩

instance : LawfulNamed PrimitiveType := ⟨by intro a; cases a <;> decide, by decide⟩

theorem NodeId.reads_toJson (id : NodeId) (limit : Nat) :
    NodeId.decode.Reads limit id.toJson id := by
  refine ⟨.int _, nofun, fun n within => ?_⟩
  have read := (reads_uint32 id.index limit).decoded n within
  simp [NodeId.decode, NodeId.toJson, read, nesting]

namespace Uuid

theorem ofChars_groups {a b c d e : List Char} (ha : a.length = 8) (hb : b.length = 4)
    (hc : c.length = 4) (hd : d.length = 4) (he : e.length = 12) :
    ofChars (a ++ '-' :: b ++ '-' :: c ++ '-' :: d ++ '-' :: e) = ofGroups a b c d e := by
  rw [ofChars, if_neg (by simp [ha, hb, hc, hd, he]), if_pos (by simp [ha, hb, hc, hd, he])]
  simp [ofHyphenated, List.drop_append, List.drop_eq_nil_of_le, ha, hb, hc, hd, he]

theorem parse_text (u : Uuid) : parse u.text = some u := by
  have low := Text.readHex_hexDigits (show u.timeLow.toNat < Nat.pow 16 8 from u.timeLow.isLt)
  have mid := Text.readHex_hexDigits (show u.timeMid.toNat < Nat.pow 16 4 from u.timeMid.isLt)
  have high := Text.readHex_hexDigits (show u.timeHigh.toNat < Nat.pow 16 4 from u.timeHigh.isLt)
  have clock := Text.readHex_hexDigits (show u.clock.toNat < Nat.pow 16 4 from u.clock.isLt)
  have node := Text.readHex_hexDigits (show u.node.toNat < Nat.pow 16 12 from u.node.isLt)
  rw [parse, text, String.toList_ofList, ofChars_groups]
  · simp [ofGroups, low, mid, high, clock, node]
  all_goals exact Text.length_hexDigits _ _ _

theorem reads_toJson (u : Uuid) (limit : Nat) : decode.Reads limit u.toJson u := by
  refine ⟨.str _, nofun, fun n _ => ?_⟩
  rw [decode, toJson, Decoder.string, Option.bind_some, parse_text]
  exact (if_pos n.zero_le).symm

end Uuid

theorem SchemaColumn.reads_toJson (column : SchemaColumn) (limit : Nat) :
    SchemaColumn.decode.Reads limit column.toJson column :=
  .record rfl (by decide) <| .field (reads_string column.name _).required <|
    .field (reads_string column.typeName _).required <|
    .field ((Named.reads_toJson column.purpose _).orElse .default) <|
    .field ((reads_int32 column.length _).orElse 0) <|
    .field ((reads_uint32 column.precision _).orElse 0) <|
    .field ((reads_uint32 column.scale _).orElse 0) <|
    .field ((reads_bool column.isGenerated _).orElse false) .done

theorem Property.reads_toJson (property : Property) (limit : Nat) :
    Property.decode.Reads limit property.toJson property :=
  .record rfl (by decide) <| .field (reads_string property.name _).required <|
    .field (Reads.list property.columns fun part _ => part.reads_toJson _).required .done

theorem Entity.reads_toJson (entity : Entity) (limit : Nat) :
    Entity.decode.Reads limit entity.toJson entity :=
  .record rfl (by decide) <| .field (reads_string entity.name _).required <|
    .field (reads_string entity.tableName _).required <|
    .field ((reads_int32 entity.typeCode _).orElse 0) <|
    .field (Reads.list entity.properties fun part _ => part.reads_toJson _).required .done

theorem IndexKey.reads_toJson (key : IndexKey) (limit : Nat) :
    IndexKey.decode.Reads limit key.toJson key :=
  .record rfl (by decide) <| .field (reads_string key.name _).required <|
    .field ((reads_bool key.isDescending _).orElse false) .done

namespace Binding

theorem reads_tableName (name : String) (limit : Nat) :
    decodeTableName.Reads limit (.obj [("table_name", .str name)]) name :=
  .record rfl (by decide) (.last (reads_string name _).required)

theorem reads_typeCode (code : Int32) (limit : Nat) :
    decodeTypeCode.Reads limit (.obj [("type_code", .int code.toInt)]) code :=
  .record rfl (by decide) (.last (reads_int32 code _).required)

theorem reads_toJson (binding : Binding) (limit : Nat) :
    decode.Reads limit binding.toJson binding := by
  cases binding with
  | entity e => exact .variant (by decide) (e.reads_toJson _) fun _ _ => rfl
  | property p => exact .variant (by decide) (p.reads_toJson _) fun _ _ => rfl
  | column id => exact .variant (by decide) (id.reads_toJson _) fun _ _ => rfl
  | enumValue u => exact .variant (by decide) (u.reads_toJson _) fun _ _ => rfl
  | commonTable => exact .unit fun _ => rfl
  | derivedTable => exact .unit fun _ => rfl
  | tableVariable => exact .unit fun _ => rfl
  | temporaryTable => exact .unit fun _ => rfl
  | userDefinedType name =>
    exact .variant (by decide) (reads_tableName name _) fun _ _ => rfl
  | primitive type =>
    exact .variant (by decide) (Named.reads_toJson type _) fun _ _ => rfl
  | entityType code =>
    exact .variant (by decide) (reads_typeCode code _) fun _ _ => rfl
  | indexColumn key =>
    exact .variant (by decide) (key.reads_toJson _) fun _ _ => rfl

end Binding

theorem PhysicalColumn.reads_toJson (column : PhysicalColumn) (limit : Nat) :
    PhysicalColumn.decode.Reads limit column.toJson column :=
  .record rfl (by decide) <| .field (reads_string column.name _).required <|
    .field (.optional column.asName fun text _ => reads_string text _) <|
    .field (.optional column.tag fun value _ => Named.reads_toJson value _) <|
    .field (.optional column.typeName fun text _ => reads_string text _) .done

namespace Dict

variable {κ : Type} [DecidableEq κ] {α : Type}

theorem setEntry_of_not_mem {key : κ} {entries : List (κ × α)} (fresh : key ∉ entries.map (·.1))
    (value : α) : setEntry key value entries = entries ++ [(key, value)] := by
  induction entries with
  | nil => rfl
  | cons entry entries ih =>
    obtain ⟨k, v⟩ := entry
    simp only [List.map_cons, List.mem_cons, not_or] at fresh
    simp [setEntry, Ne.symm fresh.1, ih fresh.2]

theorem entries_insertAll (d : Dict κ α) {entries : List (κ × α)}
    (nodup : ((d.entries ++ entries).map (·.1)).Nodup) :
    (d.insertAll entries).entries = d.entries ++ entries := by
  induction entries generalizing d with
  | nil => simp [insertAll]
  | cons entry entries ih =>
    have step : (d.insert entry.1 entry.2).entries = d.entries ++ [entry] := by
      refine setEntry_of_not_mem (fun mem => ?_) entry.2
      rw [List.map_append, List.nodup_append] at nodup
      exact nodup.2.2 _ mem _ (by simp) rfl
    have rest := ih (d.insert entry.1 entry.2) (by simpa [step] using nodup)
    rw [step, List.append_assoc] at rest
    exact rest

/-- A table is made of its entries again. -/
theorem ofList_entries (d : Dict κ α) : ofList d.entries = d :=
  ext (entries_insertAll empty d.nodup)

end Dict

theorem isBare_of_isDigit {c : Char} (digit : Text.isDigit c = true) : isBare c = true := by
  have other : ∀ d, Text.isDigit d = false → c ≠ d := fun _ => Text.ne_of_holds digit
  have code := (Text.toNat_of_isDigit digit).1
  have short : shortEscape c = none := by
    simp [shortEscape, other '"' (by decide), other '\\' (by decide), other '\n' (by decide),
      other '\r' (by decide), other '\t' (by decide), show c.toNat ≠ 8 by omega,
      show c.toNat ≠ 12 by omega]
  simp [isBare, short, show ¬c.toNat < 32 by omega]

theorem NodeId.isBareName_toKey (id : NodeId) : IsBareName id.toKey := by
  refine List.all_eq_true.mpr fun c mem => isBare_of_isDigit ?_
  rw [NodeId.toKey, Text.toList_toString] at mem
  exact Text.isDigit_of_mem_toDigits mem

namespace Bindings

theorem reads_dict {decode : Decoder α} {write : α → Json} (d : Dict NodeId α) {limit : Nat}
    (each : ∀ a, decode.Reads limit (write a) a) :
    (numbered NodeId.ofKey decode).Reads limit (dictToJson write d) d := by
  refine ⟨exact_obj ?_ ?_, nofun, fun n within => ?_⟩
  · exact List.forall_mem_map.mpr fun entry _ => entry.1.isBareName_toKey
  · exact List.forall_mem_map.mpr fun entry _ => (each entry.2).shown
  · cases n with
    | zero => simp [dictToJson, nesting, numbered]
    | succ n =>
      have value : ∀ entry ∈ d.entries,
          (do return (← NodeId.ofKey entry.1.toKey, ← decode n (write entry.2))) =
            if (write entry.2).nesting ≤ n then some entry else none := by
        intro entry _
        rw [NodeId.ofKey_toKey, (each entry.2).decoded n (by omega)]
        by_cases room : (write entry.2).nesting ≤ n <;> simp [room]
      have levels : (dictToJson write d).nesting ≤ n + 1 ↔
          ∀ entry ∈ d.entries, (write entry.2).nesting ≤ n := by
        rw [dictToJson, nesting, Nat.add_le_add_iff_right, membersNesting_eq, itemsNesting_le,
          List.forall_mem_map, List.forall_mem_map]
      simp only [levels]
      rw [dictToJson, numbered, table, mapM_map_eq value]
      split
      · rw [Option.map_some, Dict.ofList_entries]
      · rfl

theorem reads_toJson (b : Bindings) (limit : Nat) : decode.Reads limit b.toJson b :=
  .record rfl (by decide) <|
    .field ((reads_dict b.bindings fun binding => binding.reads_toJson _).orElse Dict.empty) <|
    .field ((reads_dict b.mappings fun mapping =>
      Reads.list mapping fun column _ => column.reads_toJson _).orElse Dict.empty) .done

end Bindings

end SqlEmit
