import Mathlib.Tactic.Common
import PhpOutline.FileTree.Basic
import PhpOutline.Proofs.Text.Split

/-!
Paths that grow by a name lead one step further.

A walk builds the paths of what it meets name by name, and reading a file follows such a path from
its start.
Both come to the same place, unless too many links or too long a name stop the reading.
-/

namespace PhpOutline

/-- A name that can stand in a directory. -/
structure IsFileName (name : String) : Prop where
  nonempty : name ≠ ""
  whole : '/' ∉ name.toList
  not_here : name ≠ "."
  not_parent : name ≠ ".."

instance (name : String) : Decidable (IsFileName name) :=
  decidable_of_iff (name ≠ "" ∧ '/' ∉ name.toList ∧ name ≠ "." ∧ name ≠ "..")
    ⟨fun ⟨nonempty, whole, here, parent⟩ => ⟨nonempty, whole, here, parent⟩,
      fun valid => ⟨valid.nonempty, valid.whole, valid.not_here, valid.not_parent⟩⟩

/-- A separator parts the pieces before it from those behind it. -/
theorem pathPieces_append (front back : String) :
    pathPieces (front ++ "/" ++ back) = pathPieces front ++ pathPieces back := by
  have chars : (front ++ "/" ++ back).toList = front.toList ++ '/' :: back.toList := by simp
  rw [pathPieces, chars, splitAt_append_cons (by decide), List.map_append, pathPieces, pathPieces]

/-- A text without a separator is one piece. -/
theorem pathPieces_whole {name : String} (whole : '/' ∉ name.toList) :
    pathPieces name = [name] := by
  -- Without a separator the path is one piece.
  rw [pathPieces, splitAt_whole]
  · simp
  · intro char listed
    simpa using fun same : char = '/' => whole (same ▸ listed)

/-- A path that ends in a separator has something in front of it, if only an empty text. -/
theorem endsWith_separator_iff {path : String} :
    path.endsWith "/" = true ↔ ∃ front, path = front ++ "/" := by
  -- What stands before the separator is the front.
  rw [String.endsWith, String.Slice.endsWith_string_iff, String.copy_toSlice]
  constructor
  · rintro ⟨chars, joined⟩
    refine ⟨String.ofList chars, ?_⟩
    rw [← String.toList_inj, ← joined]
    simp
  · rintro ⟨front, rfl⟩
    exact ⟨front.toList, by simp⟩

/-- The pieces of a path that a further name comes behind. -/
def pathStem (path : String) : List String :=
  -- The empty piece behind a separator at the end gives way to the name.
  if path.endsWith "/" then (pathPieces path).dropLast else pathPieces path

/-- The stem of a path that ends in a separator is what stands in front of it. -/
theorem pathStem_append_separator (front : String) :
    pathStem (front ++ "/") = pathPieces front ∧
      pathPieces (front ++ "/") = pathPieces front ++ [""] := by
  -- The separator leaves an empty piece behind it, which the stem drops.
  have empty : pathPieces "" = [""] := pathPieces_whole (by simp)
  have pieces : pathPieces (front ++ "/") = pathPieces front ++ [""] := by
    have parted := pathPieces_append front ""
    rwa [String.append_empty, empty] at parted
  refine ⟨?_, pieces⟩
  rw [pathStem, if_pos (endsWith_separator_iff.mpr ⟨front, rfl⟩), pieces, List.dropLast_concat]

section

variable {path name : String}

/-- A name does not start at the root. -/
theorem IsFileName.relative (valid : IsFileName name) : name.startsWith "/" = false := by
  -- A name that starts at the root would hold a separator.
  by_contra absolute
  rw [Bool.not_eq_false, String.startsWith_string_iff] at absolute
  obtain ⟨chars, joined⟩ := absolute
  exact valid.whole (by rw [← joined]; simp)

/-- A path with a further name starts with the path, and has the name behind its stem. -/
theorem joinPath_spec (nonempty : path ≠ "") (valid : IsFileName name) :
    (∃ between, joinPath path name = path ++ between ++ name) ∧
      pathPieces (joinPath path name) = pathStem path ++ [name] := by
  by_cases ends : path.endsWith "/" = true
  · -- The separator is there already.
    have joined : joinPath path name = path ++ name := by
      simp [joinPath, valid.relative, nonempty, ends]
    obtain ⟨front, rfl⟩ := endsWith_separator_iff.mp ends
    refine ⟨⟨"", by rw [joined, String.append_empty]⟩, ?_⟩
    rw [joined, pathPieces_append, pathPieces_whole valid.whole,
      (pathStem_append_separator front).1]
  · -- The separator is put between the two.
    have joined : joinPath path name = path ++ "/" ++ name := by
      simp [joinPath, valid.relative, nonempty, ends]
    refine ⟨⟨"/", joined⟩, ?_⟩
    rw [joined, pathPieces_append, pathPieces_whole valid.whole, pathStem, if_neg ends]

/-- A path with a further name does not end in a separator. -/
theorem pathStem_joinPath (nonempty : path ≠ "") (valid : IsFileName name) :
    joinPath path name ≠ "" ∧ pathStem (joinPath path name) = pathStem path ++ [name] := by
  obtain ⟨⟨between, joined⟩, pieces⟩ := joinPath_spec nonempty valid
  have closed : (joinPath path name).endsWith "/" ≠ true := by
    intro ends
    obtain ⟨front, split⟩ := endsWith_separator_iff.mp ends
    -- The last piece would be empty, and it is the name.
    rw [split, (pathStem_append_separator front).2] at pieces
    obtain ⟨-, last⟩ := List.append_inj' pieces rfl
    exact valid.nonempty (List.cons.inj last).1.symm
  refine ⟨?_, by rw [pathStem, if_neg closed, pieces]⟩
  rw [joined]
  simp [nonempty]

end

/-- What one piece of a path leads to. -/
inductive Move where
  | stop (cause : FileError)
  | go (next : Location)
  /-- A link, whose target is followed from a location. -/
  | jump (start : Location) (target : String)

/-- What one piece of a path leads to from a location. -/
def FileTree.move (tree : FileTree) (location : Location) (piece : String) : Move :=
  -- Every piece needs a directory to start from.
  match tree.get? location with
  | none => .stop .notFound
  | some .directory =>
    if piece == "" || piece == "." then .go location
    else if piece == ".." then .go location.dropLast
    else if nameLimit < piece.utf8ByteSize then .stop .nameTooLong
    else
      match tree.get? (location ++ [piece]) with
      | none => .stop .notFound
      | some (.link target) => .jump (if target.startsWith "/" then [] else location) target
      | some _ => .go (location ++ [piece])
  | some _ => .stop .notADirectory

namespace FileTree

variable {tree : FileTree}

/-- Without pieces a path leads nowhere else. -/
@[simp] theorem follow_nil (links : Nat) (location : Location) :
    tree.follow links location [] = .ok location := by
  rw [FileTree.follow]

/-- A path is followed piece by piece, and a link puts its target in the place of a piece. -/
theorem follow_cons (links : Nat) (location : Location) (piece : String) (rest : List String) :
    tree.follow links location (piece :: rest) =
      match tree.move location piece with
      | .stop cause => .error cause
      | .go next => tree.follow links next rest
      | .jump start target =>
        match links with
        | 0 => .error .tooManyLinks
        | left + 1 =>
          if target.isEmpty then .error .notFound
          else tree.follow left start (pathPieces target ++ rest) := by
  -- The definition looks at the entry where it stands, and the move only names what it finds.
  rw [FileTree.follow]
  simp only [FileTree.move]
  cases tree.get? location with
  | none => rfl
  | some entry =>
    cases entry with
    | file bytes => rfl
    | link target => rfl
    | directory =>
      simp only
      split_ifs
      · rfl
      · rfl
      · rfl
      · cases tree.get? (location ++ [piece]) with
        | none => rfl
        | some inner => cases inner <;> rfl

/-- What holds without pieces and is kept by every move holds of every path. -/
theorem follow_induction (tree : FileTree) {motive : Nat → Location → List String → Prop}
    (done : ∀ links location, motive links location [])
    (stop : ∀ links location piece rest cause, tree.move location piece = .stop cause →
      motive links location (piece :: rest))
    (go : ∀ links location piece rest next, tree.move location piece = .go next →
      motive links next rest → motive links location (piece :: rest))
    (spent : ∀ location piece rest start target, tree.move location piece = .jump start target →
      motive 0 location (piece :: rest))
    (jump : ∀ left location piece rest start target,
      tree.move location piece = .jump start target →
      motive left start (pathPieces target ++ rest) → motive (left + 1) location (piece :: rest))
    (links : Nat) (location : Location) (pieces : List String) : motive links location pieces := by
  -- Either a link is used up, or the pieces get fewer.
  induction links generalizing location pieces with
  | zero =>
    induction pieces generalizing location with
    | nil => exact done 0 location
    | cons piece rest shorter =>
      cases moved : tree.move location piece with
      | stop cause => exact stop 0 location piece rest cause moved
      | go next => exact go 0 location piece rest next moved (shorter next)
      | jump start target => exact spent location piece rest start target moved
  | succ left fewer =>
    induction pieces generalizing location with
    | nil => exact done _ location
    | cons piece rest shorter =>
      cases moved : tree.move location piece with
      | stop cause => exact stop _ location piece rest cause moved
      | go next => exact go _ location piece rest next moved (shorter next)
      | jump start target =>
        exact jump left location piece rest start target moved (fewer start _)

/-- Pieces that lead somewhere are followed before the others, which may have fewer links left. -/
theorem follow_append {links : Nat} {start location : Location} {pieces : List String}
    (leads : tree.follow links start pieces = .ok location) :
    ∃ left ≤ links, ∀ rest,
      tree.follow links start (pieces ++ rest) = tree.follow left location rest := by
  -- Along the pieces already followed: each link on the way uses up a part of the budget.
  induction links, start, pieces using follow_induction tree with
  | done links start =>
    obtain rfl : start = location := by simpa using leads
    exact ⟨links, Nat.le_refl _, fun rest => rfl⟩
  | stop links start piece rest cause moved => simp [follow_cons, moved] at leads
  | go links start piece rest next moved ih =>
    simp only [follow_cons, moved] at leads
    obtain ⟨left, fewer, further⟩ := ih leads
    exact ⟨left, fewer, fun more => by simp only [List.cons_append, follow_cons, moved, further]⟩
  | spent start piece rest begin target moved => simp [follow_cons, moved] at leads
  | jump links start piece rest begin target moved ih =>
    simp only [follow_cons, moved] at leads
    split at leads
    · simp at leads
    · rename_i named
      obtain ⟨left, fewer, further⟩ := ih leads
      refine ⟨left, by omega, fun more => ?_⟩
      simp only [List.cons_append, follow_cons, moved, if_neg named]
      rw [← List.append_assoc, further]

/-- Pieces that lead nowhere do not do so with more pieces either. -/
theorem follow_append_error {links : Nat} {start : Location} {pieces : List String}
    {cause : FileError} (fails : tree.follow links start pieces = .error cause)
    (rest : List String) : tree.follow links start (pieces ++ rest) = .error cause := by
  -- Along the pieces, up to the one that fails; what comes behind it is not looked at.
  induction links, start, pieces using follow_induction tree with
  | done links start => simp at fails
  | stop links start piece pieces own moved =>
    simpa only [List.cons_append, follow_cons, moved] using fails
  | go links start piece pieces next moved ih =>
    simp only [follow_cons, moved] at fails
    simp only [List.cons_append, follow_cons, moved, ih fails]
  | spent start piece pieces begin target moved =>
    simpa only [List.cons_append, follow_cons, moved] using fails
  | jump links start piece pieces begin target moved ih =>
    simp only [List.cons_append, follow_cons, moved] at fails ⊢
    split at fails
    · rename_i empty
      rw [if_pos empty]
      exact fails
    · rename_i named
      rw [if_neg named, ← List.append_assoc, ih fails]

/-- With fewer links left a path leads to the same place, or through too many links. -/
theorem follow_fewer {links fewer : Nat} (start : Location) (pieces : List String)
    (bound : fewer ≤ links) :
    tree.follow fewer start pieces = tree.follow links start pieces ∨
      tree.follow fewer start pieces = .error .tooManyLinks := by
  -- Along the pieces: the two runs differ at a link that only the larger budget still pays for.
  induction links, start, pieces using follow_induction tree generalizing fewer with
  | done links start => simp
  | stop links start piece rest cause moved => simp [follow_cons, moved]
  | go links start piece rest next moved ih =>
    simpa only [follow_cons, moved] using ih bound
  | spent start piece rest begin target moved =>
    obtain rfl : fewer = 0 := by omega
    exact .inl rfl
  | jump left start piece rest begin target moved ih =>
    cases fewer with
    | zero => simp [follow_cons, moved]
    | succ less =>
      simp only [follow_cons, moved]
      split
      · exact .inl rfl
      · exact ih (by omega)

/-- A search that leads to a location, unless something other than a missing file stops it. -/
def Reaches (result : Except FileError Location) (location : Location) : Prop :=
  -- A path may be too long or lead through too many links.
  result = .ok location ∨ ∃ cause, result = .error cause ∧ cause ≠ .notFound

/-- With fewer links left a path reaches the same place. -/
theorem Reaches.fewer {links less : Nat} {start location : Location} {pieces : List String}
    (reaches : Reaches (tree.follow links start pieces) location) (bound : less ≤ links) :
    Reaches (tree.follow less start pieces) location := by
  -- The smaller budget changes nothing, or the run ends at too many links, which is still allowed.
  have either : tree.follow less start pieces = tree.follow links start pieces ∨
      tree.follow less start pieces = .error .tooManyLinks := follow_fewer start pieces bound
  rcases either with same | spent
  · rwa [same]
  · exact .inr ⟨_, spent, by simp⟩

/-- A name behind the stem of a path leads on from where the path does. -/
theorem Reaches.stem {links : Nat} {start location next : Location} {path name : String}
    (reaches : Reaches (tree.follow links start (pathPieces path)) location)
    (onward : ∀ left ≤ links, Reaches (tree.follow left location [name]) next) :
    Reaches (tree.follow links start (pathStem path ++ [name])) next := by
  by_cases ends : path.endsWith "/" = true
  · obtain ⟨front, rfl⟩ := endsWith_separator_iff.mp ends
    obtain ⟨stem, pieces⟩ := pathStem_append_separator front
    rw [pieces] at reaches
    rw [stem]
    cases led : tree.follow links start (pathPieces front) with
    | error cause =>
      rw [follow_append_error led] at reaches ⊢
      exact .inr ⟨cause, rfl, by simpa [Reaches] using reaches⟩
    | ok place =>
      obtain ⟨left, fewer, further⟩ := follow_append led
      rw [further] at reaches ⊢
      -- The empty piece needs a directory at the place, and so does the name.
      cases here : tree.get? place with
      | none => simp [Reaches, follow_cons, move, here] at reaches
      | some entry =>
        cases entry with
        | directory =>
          obtain rfl : place = location := by simpa [Reaches, follow_cons, move, here] using reaches
          exact onward left fewer
        | file bytes => exact .inr ⟨.notADirectory, by simp [follow_cons, move, here], by simp⟩
        | link target => exact .inr ⟨.notADirectory, by simp [follow_cons, move, here], by simp⟩
  · rw [pathStem, if_neg ends]
    rcases reaches with led | ⟨cause, failed, present⟩
    · obtain ⟨left, fewer, further⟩ := follow_append led
      rw [further]
      exact onward left fewer
    · exact .inr ⟨cause, follow_append_error failed _, present⟩

/-- A path leads to a location, unless it is too long or leads through too many links. -/
def LeadsTo (tree : FileTree) (path : String) (location : Location) : Prop :=
  -- Nothing is missing on the way.
  Reaches (tree.locate path) location

/-- A path with a further name leads where the name does from the place before. -/
theorem LeadsTo.joinPath {path name : String} {location next : Location}
    (leads : tree.LeadsTo path location) (nonempty : path ≠ "") (valid : IsFileName name)
    (onward : Reaches (tree.follow linkLimit location [name]) next) :
    tree.LeadsTo (joinPath path name) next := by
  obtain ⟨⟨between, joined⟩, pieces⟩ := joinPath_spec nonempty valid
  obtain ⟨filled, -⟩ := pathStem_joinPath nonempty valid
  unfold LeadsTo locate at leads ⊢
  by_cases broken : (PhpOutline.joinPath path name).toList.contains '\x00' = true
  · exact .inr ⟨.brokenPath, by rw [if_pos broken], by simp⟩
  by_cases long : pathLimit ≤ (PhpOutline.joinPath path name).utf8ByteSize
  · exact .inr ⟨.nameTooLong, by rw [if_neg broken, if_pos long], by simp⟩
  -- What the longer path passes the shorter one does too, and both start at the same place.
  have clean : ¬ path.toList.contains '\x00' = true := by
    rw [joined] at broken
    simp_all
  have short : ¬ pathLimit ≤ path.utf8ByteSize := by
    rw [joined, String.utf8ByteSize_append, String.utf8ByteSize_append] at long
    omega
  have start : (PhpOutline.joinPath path name).startsWith "/" = path.startsWith "/" := by
    obtain ⟨char, rest, chars⟩ : ∃ char rest, path.toList = char :: rest :=
      List.exists_cons_of_ne_nil (by simpa using nonempty)
    rw [Bool.eq_iff_iff, String.startsWith_string_iff, String.startsWith_string_iff, joined]
    simp [chars]
  rw [if_neg clean, if_neg short, if_neg (by simpa using nonempty)] at leads
  rw [if_neg broken, if_neg long, if_neg (by simpa using filled), start, pieces]
  exact Reaches.stem leads fun left fewer => onward.fewer fewer

/-- A path can be read if it leads to a file that holds text. -/
theorem readText_eq_ok_iff {path source : String} :
    tree.readText path = .ok source ↔ ∃ place bytes, tree.locate path = .ok place ∧
      tree.get? place = some (.file bytes) ∧ String.fromUTF8? bytes = some source := by
  -- A text is read off a file that is found and holds UTF-8.
  rw [readText]
  cases located : tree.locate path with
  | error cause => simp [bind, Except.bind]
  | ok place =>
    simp only [bind, Except.bind, Except.ok.injEq, exists_and_left, exists_eq_left']
    cases tree.get? place with
    | none => simp
    | some entry =>
      cases entry with
      | file bytes => cases text : String.fromUTF8? bytes <;> simp [text]
      | directory => simp
      | link target => simp

/-- A path that can be read is not too long. -/
theorem LeadsTo.locate_of_readText {path source : String} {place : Location}
    (leads : tree.LeadsTo path place) (readable : tree.readText path = .ok source) :
    tree.locate path = .ok place := by
  -- A path that is read is located, and only at the place it leads to.
  obtain ⟨found, bytes, located, -⟩ := readText_eq_ok_iff.mp readable
  rcases leads with led | ⟨cause, failed, -⟩
  · exact led
  · simp [failed] at located

end FileTree

end PhpOutline
