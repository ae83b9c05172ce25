import SqlDraft.Value.Basic

/-!
# Values of Lean data

Data of the usual types stands for a value: what is missing for null, and a list for a list.
-/

namespace SqlDraft

/-- Types whose elements stand for values. -/
class ToValue (α : Type) where
  toValue : α → Value

export ToValue (toValue)

instance : ToValue Value := ⟨id⟩

instance : ToValue Bool := ⟨.bool⟩

instance : ToValue Int64 := ⟨.int⟩

instance : ToValue Int32 := ⟨fun i => .int i.toInt64⟩

instance : ToValue UInt32 := ⟨fun n => .int (Int64.ofNat n.toNat)⟩

instance : ToValue Binary64 := ⟨.float⟩

instance : ToValue String := ⟨.text⟩

instance {α : Type} [ToValue α] : ToValue (Option α) :=
  ⟨fun a? => match a? with
    | some a => toValue a
    | none => .null⟩

instance {α : Type} [ToValue α] : ToValue (List α) := ⟨fun as => .list (as.map toValue)⟩

end SqlDraft
