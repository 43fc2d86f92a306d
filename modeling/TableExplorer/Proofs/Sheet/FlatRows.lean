import Mathlib.Data.List.Nodup
import TableExplorer.Proofs.Dict
import TableExplorer.Sheet.Column
import TableExplorer.Text.Split

/-!
# Flat rows lose nothing

Where the names of a row, at every level, are not empty, hold no dot and differ from those beside
them, a dot in the name of a column tells where a relation ends. The columns of the flat row are
then the paths to the values of the row that are no relations, in the order in which a walk through
the row meets them, and no two of them have one name: the path is read back by splitting the name at
its dots. So the row can be put together again, except for relations without values, of which no
column tells.

Main result: `flatten_lossless`.
-/

namespace TableExplorer.Sheet

/-! ## Names and paths -/

/-- A name that can stand between dots. -/
def IsName (key : String) : Prop := key ≠ "" ∧ '.' ∉ key.toList

instance (key : String) : Decidable (IsName key) := inferInstanceAs (Decidable (_ ∧ _))

/-- A value that is no relation. -/
def IsLeaf (v : Value) : Prop := ∀ sub, v ≠ .record sub

/-- A row with names at every level, where the names of one level differ. -/
inductive Named : Row → Prop
  | nil : Named []
  | cons {key : String} {v : Value} {fields : Row} (hname : IsName key)
      (hnew : key ∉ Dict.keys fields) (hsub : ∀ sub, v = .record sub → Named sub)
      (hfields : Named fields) : Named ((key, v) :: fields)

/-- The values of a row that are no relations, each with the names on the way to it, as a walk
through the row meets them that goes into a relation where it stands. -/
def leafPaths : Row → List (List String × Value)
  | [] => []
  | (key, .record sub) :: fields =>
    ((leafPaths sub).map fun leaf => (key :: leaf.1, leaf.2)) ++ leafPaths fields
  | (key, v) :: fields => ([key], v) :: leafPaths fields

/-- The value to which a path leads. -/
def valueAt? : Row → List String → Option Value
  | _, [] => none
  | row, [key] => Dict.get? row key
  | row, key :: path =>
    match Dict.get? row key with
    | some (.record sub) => valueAt? sub path
    | _ => none

/-- A path comes before another: where they part, its name stands before the other's. -/
inductive Before : Row → List String → List String → Prop
  | parted {row : Row} {key other : String} {path path' : List String}
      (h : [key, other].Sublist (Dict.keys row)) : Before row (key :: path) (other :: path')
  | joined {row sub : Row} {key : String} {path path' : List String}
      (hsub : Dict.get? row key = some (.record sub)) (h : Before sub path path') :
      Before row (key :: path) (key :: path')

/-- A path as the name of a column. -/
def dotted (path : List String) : String :=
  String.ofList (Text.joinWith '.' (path.map String.toList))

/-- The path that the name of a column tells. -/
def pathOf (name : String) : List String :=
  (Text.splitAtChar '.' name.toList).map String.ofList

theorem leafPaths_of_isLeaf {v : Value} (hv : IsLeaf v) (key : String) (fields : Row) :
    leafPaths ((key, v) :: fields) = ([key], v) :: leafPaths fields := by
  cases v with
  | record sub => exact absurd rfl (hv sub)
  | _ => rw [leafPaths]; exact fun sub => nofun

theorem leavesOf_of_isLeaf {v : Value} (hv : IsLeaf v) (path : String) :
    leavesOf path v = [(path, v)] := by
  cases v with
  | record sub => exact absurd rfl (hv sub)
  | _ => rw [leavesOf]; exact fun sub => nofun

theorem isLeaf_or_record (v : Value) : IsLeaf v ∨ ∃ sub, v = .record sub := by
  cases v with
  | record sub => exact .inr ⟨sub, rfl⟩
  | _ => exact .inl fun sub => nofun

/-! ## The leaves of a row -/

/-- A path to a leaf begins with a name of the row and consists of names. -/
theorem exists_of_mem_leafPaths {row : Row} (h : Named row) {leaf : List String × Value}
    (hleaf : leaf ∈ leafPaths row) :
    ∃ key path, leaf.1 = key :: path ∧ key ∈ Dict.keys row ∧ ∀ name ∈ leaf.1, IsName name := by
  induction h generalizing leaf with
  | nil => simp [leafPaths] at hleaf
  | @cons key v fields hname hnew _ _ ihsub ih =>
    have hrest : leaf ∈ leafPaths fields → ∃ key' path, leaf.1 = key' :: path ∧
        key' ∈ Dict.keys ((key, v) :: fields) ∧ ∀ name ∈ leaf.1, IsName name := by
      intro hmem
      obtain ⟨key', path, hpath, hkey', hnames⟩ := ih hmem
      exact ⟨key', path, hpath, List.mem_cons_of_mem key hkey', hnames⟩
    rcases isLeaf_or_record v with hv | ⟨sub, rfl⟩
    · rw [leafPaths_of_isLeaf hv, List.mem_cons] at hleaf
      rcases hleaf with rfl | hleaf
      · exact ⟨key, [], rfl, List.mem_cons_self, by simpa using hname⟩
      · exact hrest hleaf
    · rw [leafPaths, List.mem_append, List.mem_map] at hleaf
      rcases hleaf with ⟨below, hbelow, rfl⟩ | hleaf
      · obtain ⟨-, -, -, -, hnames⟩ := ihsub sub rfl hbelow
        exact ⟨key, below.1, rfl, List.mem_cons_self, by simpa using ⟨hname, hnames⟩⟩
      · exact hrest hleaf

theorem valueAt?_of_not_mem {row : Row} {key : String} (h : key ∉ Dict.keys row)
    (path : List String) : valueAt? row (key :: path) = none := by
  have hget : Dict.get? row key = none := (Dict.get?_eq_none_iff row key).2 h
  cases path <;> simp [valueAt?, hget]

theorem valueAt?_cons_of_ne {key other : String} (h : key ≠ other) (v : Value) (fields : Row)
    (path : List String) :
    valueAt? ((key, v) :: fields) (other :: path) = valueAt? fields (other :: path) := by
  have hget : Dict.get? ((key, v) :: fields) other = Dict.get? fields other := by
    rw [Dict.get?_cons, if_neg h]
  cases path <;> simp [valueAt?, hget]

/-- **The leaves of a row are the ends of its paths that are no relations.** -/
theorem mem_leafPaths {row : Row} (h : Named row) {path : List String} {v : Value} :
    (path, v) ∈ leafPaths row ↔ valueAt? row path = some v ∧ IsLeaf v := by
  induction h generalizing path v with
  | nil => rcases path with _ | ⟨key, _ | ⟨next, path⟩⟩ <;> simp [leafPaths, valueAt?]
  | @cons key w fields _ hnew _ _ ihsub ih =>
    cases path with
    | nil =>
      have hrest : ([], v) ∉ leafPaths fields := fun hmem => by simpa [valueAt?] using (ih.1 hmem).1
      rcases isLeaf_or_record w with hw | ⟨sub, rfl⟩
      · simp [leafPaths_of_isLeaf hw, hrest, valueAt?]
      · simp [leafPaths, hrest, valueAt?]
    | cons name path =>
      by_cases hname : key = name
      · subst hname
        have hrest : (key :: path, v) ∉ leafPaths fields := fun hmem => by
          simpa [valueAt?_of_not_mem hnew] using (ih.1 hmem).1
        rcases isLeaf_or_record w with hw | ⟨sub, rfl⟩
        · rw [leafPaths_of_isLeaf hw]
          cases path with
          | nil =>
            simp only [List.mem_cons, Prod.mk.injEq, true_and, hrest, or_false, valueAt?,
              Dict.get?_cons, if_true, Option.some.injEq]
            constructor
            · rintro rfl
              exact ⟨rfl, hw⟩
            · exact fun hv => hv.1.symm
          | cons next path =>
            have hend : valueAt? ((key, w) :: fields) (key :: next :: path) = none := by
              simp only [valueAt?, Dict.get?_cons, if_true]
              split
              · next sub heq => exact absurd (Option.some.inj heq) (hw sub)
              · rfl
            simp [hrest, hend]
        · simp only [leafPaths, List.mem_append, List.mem_map, hrest, or_false, Prod.mk.injEq,
            List.cons.injEq, true_and]
          have hbelow : (∃ leaf ∈ leafPaths sub, leaf.1 = path ∧ leaf.2 = v) ↔
              (path, v) ∈ leafPaths sub := by
            constructor
            · rintro ⟨leaf, hleaf, rfl, rfl⟩
              exact hleaf
            · exact fun hmem => ⟨_, hmem, rfl, rfl⟩
          rw [hbelow, ihsub sub rfl]
          cases path with
          | nil =>
            simp only [valueAt?, Dict.get?_cons, if_true, Option.some.injEq, reduceCtorEq,
              false_and, false_iff, not_and]
            rintro rfl hv
            exact hv sub rfl
          | cons next path => simp [valueAt?, Dict.get?_cons]
      · rw [valueAt?_cons_of_ne hname, ← ih]
        rcases isLeaf_or_record w with hw | ⟨sub, rfl⟩
        · simp [leafPaths_of_isLeaf hw, Ne.symm hname]
        · simp [leafPaths, hname]

theorem Before.cons {key : String} {v : Value} {fields : Row} (hnew : key ∉ Dict.keys fields)
    {path path' : List String} (h : Before fields path path') :
    Before ((key, v) :: fields) path path' := by
  cases h with
  | parted h => exact .parted (h.cons key)
  | @joined _ sub name _ _ hsub h =>
    have hname : key ≠ name := by
      rintro rfl
      rw [(Dict.get?_eq_none_iff fields key).2 hnew] at hsub
      cases hsub
    exact .joined (by rw [Dict.get?_cons, if_neg hname, hsub]) h

/-- **The leaves stand in the order of their paths.** -/
theorem pairwise_leafPaths {row : Row} (h : Named row) :
    (leafPaths row).Pairwise fun a b => Before row a.1 b.1 := by
  induction h with
  | nil => simp [leafPaths]
  | @cons key v fields hname hnew _ hfields ihsub ih =>
    have hrest := ih.imp fun hbefore => hbefore.cons (v := v) hnew
    have hfirst : ∀ path, ∀ leaf ∈ leafPaths fields,
        Before ((key, v) :: fields) (key :: path) leaf.1 := by
      intro path leaf hleaf
      obtain ⟨other, path', hpath, hother, -⟩ := exists_of_mem_leafPaths hfields hleaf
      rw [hpath]
      exact .parted ((List.singleton_sublist.2 hother).cons_cons key)
    rcases isLeaf_or_record v with hv | ⟨sub, rfl⟩
    · rw [leafPaths_of_isLeaf hv, List.pairwise_cons]
      exact ⟨hfirst [], hrest⟩
    · rw [leafPaths, List.pairwise_append, List.pairwise_map]
      refine ⟨(ihsub sub rfl).imp fun hbefore => ?_, hrest, ?_⟩
      · exact .joined (by rw [Dict.get?_cons, if_pos rfl]) hbefore
      · intro leaf hleaf other hother
        obtain ⟨below, -, rfl⟩ := List.mem_map.1 hleaf
        exact hfirst below.1 other hother

theorem nodup_leafPaths {row : Row} (h : Named row) :
    ((leafPaths row).map Prod.fst).Nodup := by
  induction h with
  | nil => simp [leafPaths]
  | @cons key v fields hname hnew _ hfields ihsub ih =>
    have hfirst : ∀ path, key :: path ∉ (leafPaths fields).map Prod.fst := by
      intro path hmem
      obtain ⟨leaf, hleaf, hpath⟩ := List.mem_map.1 hmem
      obtain ⟨other, path', hother, hkey, -⟩ := exists_of_mem_leafPaths hfields hleaf
      rw [hother] at hpath
      exact hnew ((List.cons.inj hpath).1 ▸ hkey)
    rcases isLeaf_or_record v with hv | ⟨sub, rfl⟩
    · rw [leafPaths_of_isLeaf hv, List.map_cons, List.nodup_cons]
      exact ⟨hfirst [], ih⟩
    · have hpaths : ((leafPaths sub).map fun leaf => (key :: leaf.1, leaf.2)).map Prod.fst =
          ((leafPaths sub).map Prod.fst).map (key :: ·) := by simp
      rw [leafPaths, List.map_append, hpaths, List.nodup_append]
      refine ⟨(ihsub sub rfl).map fun _ _ h => (List.cons.inj h).2, ih, ?_⟩
      intro path hpath other hother heq
      obtain ⟨below, -, rfl⟩ := List.mem_map.1 hpath
      exact hfirst below (heq ▸ hother)

/-! ## The names of columns -/

@[simp] theorem dotted_singleton (key : String) : dotted [key] = key := by
  simp [dotted, Text.joinWith]

theorem dotted_cons (key : String) {path : List String} (h : path ≠ []) :
    dotted (key :: path) = key ++ "." ++ dotted path := by
  obtain ⟨next, path, rfl⟩ := List.exists_cons_of_ne_nil h
  rw [← String.toList_inj]
  simp [dotted, Text.joinWith]

theorem dotted_cons_cons (name key : String) (path : List String) :
    dotted (name :: key :: path) = dotted ((name ++ "." ++ key) :: path) := by
  rw [dotted_cons name (List.cons_ne_nil key path)]
  by_cases h : path = []
  · simp [h]
  · rw [dotted_cons key h, dotted_cons _ h]
    simp [String.append_assoc]

/-- A path is read back from the name that it gives. -/
theorem pathOf_dotted {path : List String} (hne : path ≠ []) (h : ∀ key ∈ path, IsName key) :
    pathOf (dotted path) = path := by
  have hparts : ∀ part ∈ path.map String.toList, '.' ∉ part := by
    intro part hpart
    obtain ⟨key, hkey, rfl⟩ := List.mem_map.1 hpart
    exact (h key hkey).2
  rw [pathOf, dotted, String.toList_ofList, Text.splitAtChar_joinWith (by simpa using hne) hparts,
    List.map_map]
  simp [Function.comp_def]

theorem pathOf_of_mem_leafPaths {row : Row} (h : Named row) {leaf : List String × Value}
    (hleaf : leaf ∈ leafPaths row) : pathOf (dotted leaf.1) = leaf.1 := by
  obtain ⟨key, path, hpath, -, hnames⟩ := exists_of_mem_leafPaths h hleaf
  exact pathOf_dotted (by simp [hpath]) hnames

/-- Below a name, every leaf has the name in front of its path. -/
theorem leaves_of_named {row : Row} (h : Named row) {name : String} (hname : name ≠ "") :
    leaves name row = (leafPaths row).map fun leaf => (dotted (name :: leaf.1), leaf.2) := by
  induction h generalizing name with
  | nil => simp [leafPaths, leaves]
  | @cons key v fields _ _ _ _ ihsub ih =>
    have hpath : pathName name key = name ++ "." ++ key := by simp [pathName, hname]
    rw [leaves, hpath, ih hname]
    rcases isLeaf_or_record v with hv | ⟨sub, rfl⟩
    · rw [leavesOf_of_isLeaf hv, leafPaths_of_isLeaf hv, List.map_cons, dotted_cons_cons,
        dotted_singleton, List.singleton_append]
    · rw [leavesOf, ihsub sub rfl (by simp [String.append_eq_empty_iff]), leafPaths]
      simp [Function.comp_def, dotted_cons_cons]

theorem leaves_top {row : Row} (h : Named row) :
    leaves "" row = (leafPaths row).map fun leaf => (dotted leaf.1, leaf.2) := by
  induction h with
  | nil => simp [leafPaths, leaves]
  | @cons key v fields hname _ hsub _ _ ih =>
    have hpath : pathName "" key = key := by simp [pathName]
    rw [leaves, hpath, ih]
    rcases isLeaf_or_record v with hv | ⟨sub, rfl⟩
    · rw [leavesOf_of_isLeaf hv, leafPaths_of_isLeaf hv, List.map_cons, dotted_singleton,
        List.singleton_append]
    · rw [leavesOf, leaves_of_named (hsub sub rfl) hname.1, leafPaths]
      simp [Function.comp_def]

theorem nodup_dotted {row : Row} (h : Named row) :
    ((leafPaths row).map fun leaf => dotted leaf.1).Nodup := by
  refine List.Nodup.of_map pathOf ?_
  have hpaths : ((leafPaths row).map fun leaf => dotted leaf.1).map pathOf =
      (leafPaths row).map Prod.fst := by
    rw [List.map_map]
    exact List.map_congr_left fun leaf hleaf => pathOf_of_mem_leafPaths h hleaf
  rw [hpaths]
  exact nodup_leafPaths h

/-- **The columns of a flat row are the paths to the leaves.** -/
theorem flatten_of_named {row : Row} (h : Named row) :
    flatten row = (leafPaths row).map fun leaf => (dotted leaf.1, leaf.2) := by
  rw [flatten, leaves_top h]
  refine Dict.ofList_of_nodup ?_
  rw [Dict.keys, List.map_map]
  exact nodup_dotted h

theorem flatten_below {row : Row} (h : Named row) {name : String} (hname : name ≠ "") :
    flatten row name = (flatten row).map fun field => (name ++ "." ++ field.1, field.2) := by
  have hleaves : leaves name row =
      (leafPaths row).map fun leaf => (name ++ "." ++ dotted leaf.1, leaf.2) := by
    rw [leaves_of_named h hname]
    refine List.map_congr_left fun leaf hleaf => ?_
    obtain ⟨key, path, hpath, -, -⟩ := exists_of_mem_leafPaths h hleaf
    rw [dotted_cons name (by simp [hpath])]
  have hnodup : (Dict.keys (leaves name row)).Nodup := by
    have hkeys : Dict.keys (leaves name row) =
        ((leafPaths row).map fun leaf => dotted leaf.1).map (name ++ "." ++ ·) := by
      rw [hleaves, Dict.keys, List.map_map, List.map_map]
      rfl
    rw [hkeys]
    exact (nodup_dotted h).map fun a b hab => by simpa using hab
  rw [flatten, Dict.ofList_of_nodup hnodup, hleaves, flatten_of_named h, List.map_map]
  rfl

/-! ## The row again -/

/-- The relation under a name, or an empty one. -/
def relationUnder (row : Row) (key : String) : Row :=
  match Dict.get? row key with
  | some (.record sub) => sub
  | _ => []

/-- Put a value into a row at the end of a path, with the relations on the way. -/
def graft : Row → List String → Value → Row
  | row, [], _ => row
  | row, [key], v => Dict.insert row key v
  | row, key :: path, v => Dict.insert row key (.record (graft (relationUnder row key) path v))

/-- The row that a flat row tells of. -/
def rebuild (flat : Row) : Row :=
  flat.foldl (fun row field => graft row (pathOf field.1) field.2) []

/-- A row without the relations that hold no value at any depth. -/
def withoutEmpty : Row → Row
  | [] => []
  | (key, .record sub) :: fields =>
    (match withoutEmpty sub with
      | [] => []
      | kept => [(key, .record kept)]) ++ withoutEmpty fields
  | (key, v) :: fields => (key, v) :: withoutEmpty fields

theorem withoutEmpty_of_isLeaf {v : Value} (hv : IsLeaf v) (key : String) (fields : Row) :
    withoutEmpty ((key, v) :: fields) = (key, v) :: withoutEmpty fields := by
  cases v with
  | record sub => exact absurd rfl (hv sub)
  | _ => rw [withoutEmpty]; exact fun sub => nofun

theorem withoutEmpty_record (key : String) (sub fields : Row) :
    withoutEmpty ((key, .record sub) :: fields) =
      if withoutEmpty sub = [] then withoutEmpty fields
      else (key, .record (withoutEmpty sub)) :: withoutEmpty fields := by
  rw [withoutEmpty]
  split <;> simp_all

theorem withoutEmpty_eq_nil_iff (row : Row) : withoutEmpty row = [] ↔ leafPaths row = [] := by
  induction row using leafPaths.induct with
  | case1 => simp [withoutEmpty, leafPaths]
  | case2 key sub fields ihsub ih =>
    rw [withoutEmpty_record, leafPaths, List.append_eq_nil_iff, List.map_eq_nil_iff, ← ihsub, ← ih]
    by_cases h : withoutEmpty sub = [] <;> simp [h]
  | case3 key v fields hv _ =>
    have hleaf : IsLeaf v := hv
    simp [withoutEmpty_of_isLeaf hleaf, leafPaths_of_isLeaf hleaf]

theorem insert_snoc {row : Row} {key : String} (h : key ∉ Dict.keys row) (old new : Value) :
    Dict.insert (row ++ [(key, old)]) key new = row ++ [(key, new)] := by
  induction row with
  | nil => simp [Dict.insert]
  | cons field row ih =>
    rw [Dict.keys_cons, List.mem_cons, not_or] at h
    rw [List.cons_append, Dict.insert, if_neg (Ne.symm h.1), ih h.2, List.cons_append]

/-- Write the leaves of a row into another. -/
def graftAll (row : Row) (found : List (List String × Value)) : Row :=
  found.foldl (fun row leaf => graft row leaf.1 leaf.2) row

theorem graftAll_append (row : Row) (found more : List (List String × Value)) :
    graftAll row (found ++ more) = graftAll (graftAll row found) more := List.foldl_append

theorem graft_cons {row : Row} {key : String} {path : List String} (h : path ≠ []) (v : Value) :
    graft row (key :: path) v =
      Dict.insert row key (.record (graft (relationUnder row key) path v)) := by
  obtain ⟨next, path, rfl⟩ := List.exists_cons_of_ne_nil h
  rfl

/-- The leaves below a name that is written last go into its relation. -/
theorem graftAll_below_last {row : Row} {key : String} (hkey : key ∉ Dict.keys row) (sub : Row)
    {found : List (List String × Value)} (hfound : ∀ leaf ∈ found, leaf.1 ≠ []) :
    graftAll (row ++ [(key, .record sub)]) (found.map fun leaf => (key :: leaf.1, leaf.2)) =
      row ++ [(key, .record (graftAll sub found))] := by
  induction found generalizing sub with
  | nil => rfl
  | cons leaf found ih =>
    have hunder : relationUnder (row ++ [(key, .record sub)]) key = sub := by
      rw [relationUnder, Dict.get?_append, (Dict.get?_eq_none_iff row key).2 hkey]
      simp [Dict.get?_cons]
    have hfirst : graft (row ++ [(key, .record sub)]) (key :: leaf.1) leaf.2 =
        row ++ [(key, .record (graft sub leaf.1 leaf.2))] := by
      rw [graft_cons (hfound leaf List.mem_cons_self), hunder, insert_snoc hkey]
    rw [List.map_cons, graftAll, List.foldl_cons, hfirst]
    exact ih _ fun other hother => hfound other (List.mem_cons_of_mem leaf hother)

/-- The leaves below a new name make its relation, if there are any. -/
theorem graftAll_below_new {row : Row} {key : String} (hkey : key ∉ Dict.keys row)
    {found : List (List String × Value)} (hne : found ≠ [])
    (hfound : ∀ leaf ∈ found, leaf.1 ≠ []) :
    graftAll row (found.map fun leaf => (key :: leaf.1, leaf.2)) =
      row ++ [(key, .record (graftAll [] found))] := by
  obtain ⟨leaf, found, rfl⟩ := List.exists_cons_of_ne_nil hne
  have hunder : relationUnder row key = [] := by
    rw [relationUnder, (Dict.get?_eq_none_iff row key).2 hkey]
  have hfirst : graft row (key :: leaf.1) leaf.2 =
      row ++ [(key, .record (graft [] leaf.1 leaf.2))] := by
    rw [graft_cons (hfound leaf List.mem_cons_self), hunder, Dict.insert_of_not_mem hkey]
  rw [List.map_cons, graftAll, List.foldl_cons, hfirst]
  exact graftAll_below_last hkey _ fun other hother =>
    hfound other (List.mem_cons_of_mem leaf hother)

/-- **A row is put together from its leaves**, behind fields with other names. -/
theorem graftAll_leafPaths {row : Row} (h : Named row) {before : Row}
    (hbefore : ∀ key ∈ Dict.keys row, key ∉ Dict.keys before) :
    graftAll before (leafPaths row) = before ++ withoutEmpty row := by
  induction h generalizing before with
  | nil => simp [leafPaths, withoutEmpty, graftAll]
  | @cons key v fields _ hnew hsub _ ihsub ih =>
    have hkey : key ∉ Dict.keys before := hbefore key List.mem_cons_self
    have hrest : ∀ name ∈ Dict.keys fields, name ∉ Dict.keys before :=
      fun name hname => hbefore name (List.mem_cons_of_mem key hname)
    -- Once a field of the name is written, the names left are still other ones.
    have hbehind : ∀ w : Value, graftAll (before ++ [(key, w)]) (leafPaths fields) =
        before ++ (key, w) :: withoutEmpty fields := by
      intro w
      rw [ih, List.append_assoc, List.singleton_append]
      intro name hname hmem
      rw [Dict.keys, List.map_append, List.mem_append] at hmem
      rcases hmem with hmem | hmem
      · exact hrest name hname hmem
      · obtain rfl : name = key := by simpa using hmem
        exact hnew hname
    rcases isLeaf_or_record v with hv | ⟨sub, rfl⟩
    · rw [leafPaths_of_isLeaf hv, withoutEmpty_of_isLeaf hv, graftAll, List.foldl_cons,
        show graft before [key] v = Dict.insert before key v from rfl,
        Dict.insert_of_not_mem hkey]
      exact hbehind v
    · have hwhole : graftAll [] (leafPaths sub) = withoutEmpty sub := by
        rw [ihsub sub rfl (by simp), List.nil_append]
      rw [leafPaths, withoutEmpty_record, graftAll_append]
      by_cases hempty : withoutEmpty sub = []
      · have hnone := (withoutEmpty_eq_nil_iff sub).1 hempty
        rw [hnone, if_pos hempty]
        exact ih hrest
      · have hsome : leafPaths sub ≠ [] := fun hnone =>
          hempty ((withoutEmpty_eq_nil_iff sub).2 hnone)
        have hpaths : ∀ leaf ∈ leafPaths sub, leaf.1 ≠ [] := by
          intro leaf hleaf
          obtain ⟨name, path, hpath, -, -⟩ := exists_of_mem_leafPaths (hsub sub rfl) hleaf
          simp [hpath]
        have hfirst := graftAll_below_new hkey hsome hpaths
        rw [hwhole] at hfirst
        rw [if_neg hempty, hfirst]
        exact hbehind _

/-- **A row is rebuilt from its flat row.** -/
theorem rebuild_flatten {row : Row} (h : Named row) : rebuild (flatten row) = withoutEmpty row := by
  have hgraft : rebuild (flatten row) = graftAll [] (leafPaths row) := by
    rw [rebuild, flatten_of_named h, List.foldl_map, graftAll]
    refine List.foldl_ext _ _ _ fun before leaf hleaf => ?_
    rw [pathOf_of_mem_leafPaths h hleaf]
  rw [hgraft, graftAll_leafPaths h (by simp), List.nil_append]

/-! ## Flat rows stay as they are -/

theorem isLeaf_of_mem_leaves (path : String) (row : Row) :
    ∀ field ∈ leaves path row, IsLeaf field.2 := by
  induction row using leafPaths.induct generalizing path with
  | case1 => simp [leaves]
  | case2 key sub fields ihsub ih =>
    rw [leaves, leavesOf, List.forall_mem_append]
    exact ⟨ihsub _, ih _⟩
  | case3 key v fields hv ih =>
    have hleaf : IsLeaf v := hv
    rw [leaves, leavesOf_of_isLeaf hleaf, List.forall_mem_append, List.forall_mem_singleton]
    exact ⟨hleaf, ih _⟩

theorem leaves_of_isLeaf {row : Row} (h : ∀ field ∈ row, IsLeaf field.2) : leaves "" row = row := by
  induction row with
  | nil => rfl
  | cons field row ih =>
    obtain ⟨key, v⟩ := field
    have hpath : pathName "" key = key := by simp [pathName]
    rw [leaves, hpath, leavesOf_of_isLeaf (h _ List.mem_cons_self),
      ih fun other hother => h other (List.mem_cons_of_mem _ hother), List.singleton_append]

/-- **A flat row is flat**, whatever its names are. -/
theorem flatten_flatten (row : Row) : flatten (flatten row) = flatten row := by
  have hflat : ∀ field ∈ flatten row, IsLeaf field.2 := by
    intro field hfield
    have hget : Dict.get? (flatten row) field.1 = some field.2 :=
      Dict.get?_of_mem (Dict.nodup_keys_ofList _) hfield
    rw [flatten, Dict.get?_ofList] at hget
    exact isLeaf_of_mem_leaves "" row field (List.mem_reverse.1 (Dict.mem_of_get? hget))
  rw [flatten, leaves_of_isLeaf hflat]
  exact Dict.ofList_of_nodup (Dict.nodup_keys_ofList _)

/-- **Flattening loses nothing.** In a row with names, the columns of the flat row are the paths to
its leaves, in the order of the walk, each with the value at the end of its path; no two columns
have one name, and the row is rebuilt from them but for its empty relations. Below a name the
columns are the same with the name and a dot in front. A flat row stays as it is, also of a row
without such names. -/
theorem flatten_lossless (row : Row) :
    (Named row →
      flatten row = (leafPaths row).map (fun leaf => (dotted leaf.1, leaf.2)) ∧
      (∀ path v, (path, v) ∈ leafPaths row ↔ valueAt? row path = some v ∧ IsLeaf v) ∧
      ((leafPaths row).Pairwise fun a b => Before row a.1 b.1) ∧
      (Dict.keys (flatten row)).Nodup ∧
      rebuild (flatten row) = withoutEmpty row ∧
      ∀ name, name ≠ "" → flatten row name =
        (flatten row).map fun field => (name ++ "." ++ field.1, field.2)) ∧
    flatten (flatten row) = flatten row := by
  refine ⟨fun h => ⟨flatten_of_named h, ?_, ?_, ?_, ?_, ?_⟩, flatten_flatten row⟩
  · intro path v
    exact mem_leafPaths h
  · exact pairwise_leafPaths h
  · exact Dict.nodup_keys_ofList _
  · exact rebuild_flatten h
  · intro name hname
    exact flatten_below h hname

/-- A lead with its seller, the team of the seller, a relation without a row and one without
columns. -/
def lead : Row :=
  [("id", .int 7),
    ("vendedores", .record [("nome", .text "Ana"),
      ("equipe", .record [("nome", .text "Sul"), ("extra", .record [])])]),
    ("funil", .null), ("etapa", .record [])]

theorem named_lead : Named lead := by
  have hname : ∀ key ∈ ["id", "vendedores", "nome", "equipe", "extra", "funil", "etapa"],
      IsName key := by decide +kernel
  have hteam : Named [("nome", .text "Sul"), ("extra", .record [])] :=
    .cons (hname _ (by decide)) (by decide) nofun
      (.cons (hname _ (by decide)) (by decide) (by rintro _ ⟨⟩; exact .nil) .nil)
  have hseller : Named [("nome", .text "Ana"),
      ("equipe", .record [("nome", .text "Sul"), ("extra", .record [])])] :=
    .cons (hname _ (by decide)) (by decide) nofun
      (.cons (hname _ (by decide)) (by decide) (by rintro _ ⟨⟩; exact hteam) .nil)
  exact .cons (hname _ (by decide)) (by decide) nofun
    (.cons (hname _ (by decide)) (by decide) (by rintro _ ⟨⟩; exact hseller)
      (.cons (hname _ (by decide)) (by decide) nofun
        (.cons (hname _ (by decide)) (by decide) (by rintro _ ⟨⟩; exact .nil) .nil)))

/-- The empty relation is lost, and the one without a row is not. -/
theorem flatten_lossless_lead :
    Named lead ∧
    flatten lead = [("id", .int 7), ("vendedores.nome", .text "Ana"),
      ("vendedores.equipe.nome", .text "Sul"), ("funil", .null)] ∧
    rebuild (flatten lead) = [("id", .int 7),
      ("vendedores", .record [("nome", .text "Ana"), ("equipe", .record [("nome", .text "Sul")])]),
      ("funil", .null)] := by
  obtain ⟨hflat, -, -, -, hrebuild, -⟩ := (flatten_lossless lead).1 named_lead
  have hseller : dotted ["vendedores", "nome"] = "vendedores.nome" := by decide +kernel
  have hteam : dotted ["vendedores", "equipe", "nome"] = "vendedores.equipe.nome" := by
    decide +kernel
  refine ⟨named_lead, ?_, ?_⟩
  · rw [hflat]
    simp [lead, leafPaths, hseller, hteam]
  · rw [hrebuild]
    simp [lead, withoutEmpty]

end TableExplorer.Sheet
