import CoverageWindows.Files.Path

/-!
# Paths inside folders

A file that is named inside a folder is found again by the components of the folder: they stand in
front of its own, however the folder is written (empty, relative, with dots, with a slash at its
end).  The path is text where the folder is.

Main results:

- Theorem `ofBytes?_eq_some_iff`: bytes spell a text exactly when they are its bytes.
- Theorem `startsWith_inside`: a path inside a folder begins with the components of the folder.
-/

namespace CoverageWindows

/-! ## Bytes of texts -/

namespace Text

/-- Bytes spell a text exactly when they are its bytes. -/
theorem ofBytes?_eq_some_iff {b : Bytes} {s : String} : ofBytes? b = some s ↔ toBytes s = b := by
  constructor
  · intro h
    rw [ofBytes?, String.fromUTF8?] at h
    split at h
    · simp only [Option.some.injEq] at h
      subst h
      simp [toBytes, String.fromUTF8]
    · simp at h
  · rintro rfl
    exact ofBytes?_toBytes s

/-- Different texts have different bytes. -/
theorem toBytes_injective {s t : String} (h : toBytes s = toBytes t) : s = t := by
  have hs : ofBytes? (toBytes t) = some s := by rw [← h, ofBytes?_toBytes]
  rw [ofBytes?_toBytes] at hs
  exact (Option.some.inj hs).symm

@[simp]
theorem toBytes_append (s t : String) : toBytes (s ++ t) = toBytes s ++ toBytes t := by
  simp [toBytes, String.toByteArray_append, ByteArray.data_append]

end Text

namespace Path

/-! ## Components of paths that are put together -/

/-- Pieces are cut at a slash wherever it stands. -/
theorem split_append_slash (a b : Bytes) : split (a ++ slash :: b) = split a ++ split b := by
  induction a with
  | nil => simp [split]
  | cons x a ih =>
      rw [List.cons_append, split, split]
      split
      · rw [ih, List.cons_append]
      · rw [ih]
        cases hsplit : split a with
        | nil => exact absurd hsplit (split_ne_nil a)
        | cons p ps => rfl

theorem isAbsolute_append {a : Bytes} (ha : a ≠ []) (b : Bytes) :
    isAbsolute (a ++ b) = isAbsolute a := by
  cases a with
  | nil => exact absurd rfl ha
  | cons x a => rfl

/-- What follows a slash adds components behind those of what stands before it. -/
theorem components_append_slash {a : Bytes} (ha : a ≠ []) (b : Bytes) :
    components (a ++ slash :: b) =
      components a ++ ((split b).filter fun p => !isVoid p).map Component.ofPiece := by
  rw [components, components, split_append_slash, isAbsolute_append ha]
  cases hsplit : split a with
  | nil => exact absurd hsplit (split_ne_nil a)
  | cons p ps =>
      simp only [List.cons_append, List.filter_append, List.map_append]
      split
      · rfl
      · split <;> rfl

/-- A slash at the end of a path adds no component. -/
theorem components_append_slash_nil {a : Bytes} (ha : a ≠ []) :
    components (a ++ [slash]) = components a := by
  rw [components_append_slash ha]
  simp [split, isVoid]

/-- What follows the root adds components behind it. -/
theorem components_slash (b : Bytes) :
    components (slash :: b) =
      .root :: ((split b).filter fun p => !isVoid p).map Component.ofPiece := by
  simp [components, split, isAbsolute]

/-- A relative path inside a folder: where the folder is not empty, a slash stands between them, and
there are not two of them. -/
theorem inside_eq {path : Bytes} (hpath : isAbsolute path = false) (folder : Bytes) :
    inside folder path =
      if folder = [] then path
      else if folder.getLast? = some slash then folder ++ path
      else folder ++ slash :: path := by
  rw [inside, if_neg (by simp [hpath])]
  cases hlast : folder.getLast? with
  | none => rw [if_pos (List.getLast?_eq_none_iff.1 hlast)]
  | some b =>
      have hne : folder ≠ [] := by
        rintro rfl
        simp at hlast
      rw [if_neg hne]
      simp

/-- A path inside a folder begins with the components of the folder. -/
theorem startsWith_inside {path : Bytes} (hpath : isAbsolute path = false) (folder : Bytes) :
    startsWith (inside folder path) folder = true := by
  rw [startsWith, List.isPrefixOf_iff_prefix, inside_eq hpath]
  split
  · rename_i hempty
    have hnone : components folder = [] := by simp [hempty, components, split, isAbsolute]
    rw [hnone]
    exact List.nil_prefix
  · rename_i hne
    split
    · rename_i hlast
      -- The folder ends in a slash: it is cut there, and may be the root.
      obtain ⟨front, rfl⟩ : ∃ front, folder = front ++ [slash] := by
        rcases List.getLast?_eq_some_iff.1 hlast with ⟨front, hfront⟩
        exact ⟨front, hfront⟩
      rw [List.append_assoc, List.singleton_append]
      by_cases hfront : front = []
      · rw [hfront, List.nil_append, List.nil_append, components_slash, components_slash]
        simp [split, isVoid]
      · rw [components_append_slash_nil hfront, components_append_slash hfront]
        exact List.prefix_append _ _
    · rw [components_append_slash hne]
      exact List.prefix_append _ _

/-- A relative path inside a folder is text where both are. -/
theorem exists_toBytes_inside {path : String} (hpath : isAbsolute (Text.toBytes path) = false)
    (folder : String) :
    ∃ s, Text.toBytes s = inside (Text.toBytes folder) (Text.toBytes path) := by
  have hslash : Text.toBytes "/" = [slash] := by decide
  rw [inside_eq hpath]
  split
  · exact ⟨path, rfl⟩
  · split
    · exact ⟨folder ++ path, Text.toBytes_append folder path⟩
    · refine ⟨folder ++ "/" ++ path, ?_⟩
      rw [Text.toBytes_append, Text.toBytes_append, hslash, List.append_assoc,
        List.singleton_append]

end Path
end CoverageWindows
