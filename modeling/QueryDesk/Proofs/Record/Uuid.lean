import QueryDesk.Record.Uuid
import Mathlib.Data.List.Basic

namespace QueryDesk.Record.Uuid

/-- Each digit is read back from its character. -/
theorem digit?_digitChar (d : Fin 16) : digit? (digitChar d) = some d := by
  revert d
  decide

theorem mapM_digit? (ds : List (Fin 16)) : (ds.map digitChar).mapM digit? = some ds := by
  induction ds with
  | nil => rfl
  | cons d ds ih => simp only [List.map_cons, List.mapM_cons, digit?_digitChar, ih]; rfl

theorem ofSimple?_simpleChars (id : Uuid) : ofSimple? id.simpleChars = some id := by
  unfold ofSimple? simpleChars
  rw [mapM_digit?]
  simp [id.length_eq]

theorem length_simpleChars (id : Uuid) : id.simpleChars.length = 32 := by
  simp [simpleChars, id.length_eq]

/-- Hyphens between groups of the right lengths are skipped. -/
theorem ofHyphenated?_groups (a b c d e : List Char) (ha : a.length = 8) (hb : b.length = 4)
    (hc : c.length = 4) (hd : d.length = 4) (he : e.length = 12) :
    ofHyphenated? (a ++ '-' :: (b ++ '-' :: (c ++ '-' :: (d ++ '-' :: e)))) =
      ofSimple? (a ++ (b ++ (c ++ (d ++ e)))) := by
  simp (disch := omega) [ofHyphenated?, ha, hb, hc, hd, he, List.getElem?_append,
    List.drop_append, List.drop_eq_nil_of_le]
  intro hyphens
  exact absurd rfl (hyphens rfl rfl rfl)

theorem chars_eq (id : Uuid) :
    id.chars = id.simpleChars.take 8 ++ '-' :: ((id.simpleChars.drop 8).take 4 ++ '-' ::
      ((id.simpleChars.drop 12).take 4 ++ '-' :: ((id.simpleChars.drop 16).take 4 ++ '-' ::
        id.simpleChars.drop 20))) := by
  simp [chars, groups, List.intercalate]

theorem take_drop_append {α : Type} (s : List α) (n k : Nat) :
    (s.drop n).take k ++ s.drop (n + k) = s.drop n := by
  rw [← List.drop_drop, List.take_append_drop]

/-- The text of an id is read back as that id. -/
theorem parse?_text (id : Uuid) : parse? id.text = some id := by
  have hlength := id.length_simpleChars
  have hchars : id.chars.length = 36 := by
    rw [chars_eq]
    simp [hlength]
  unfold parse? text ofChars?
  rw [String.toList_ofList, if_neg (by omega), if_pos hchars, chars_eq, ofHyphenated?_groups]
  · rw [take_drop_append _ 16 4, take_drop_append _ 12 4, take_drop_append _ 8 4,
      List.take_append_drop, ofSimple?_simpleChars]
  all_goals simp [hlength]

theorem text_injective {a b : Uuid} (h : a.text = b.text) : a = b := by
  have := congrArg parse? h
  simpa [parse?_text] using this

end QueryDesk.Record.Uuid
