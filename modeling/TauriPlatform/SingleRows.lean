import TauriPlatform.RelationalTable

/-!
# Tables of one row
-/

namespace Relational.Table

variable {Row κ : Type} {indexes : List (UniqueIndex Row κ)}

theorem nodup_single (row : Row) (index : UniqueIndex Row κ) :
    ([row].filterMap index).Nodup := by
  rw [List.filterMap_cons]
  cases index row with
  | none => exact List.nodup_nil
  | some key => exact List.nodup_singleton key

def single (row : Row) : Table Row κ indexes where
  rows := [row]
  unique index _ := nodup_single row index

end Relational.Table
