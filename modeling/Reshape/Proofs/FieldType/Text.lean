import Mathlib.Data.Nat.Init
import Reshape.FieldType.Text
import Reshape.Proofs.Elementwise

/-!
# Types that are read back

Reading the text of a type gives the type again (`read_render`), provided its shapes have names that
are read as themselves and not as another type (`FieldType.Nameable`). Types that are read from
texts are of this kind (`nameable_of_ofChars`), so that types and their texts go together
(`render_faithful`).
-/

namespace Reshape

namespace Text

/-- `blankCodes` are the code points of the blanks. -/
def blankCodes : List Nat :=
  [9, 10, 11, 12, 13, 32, 133, 160, 0x1680, 0x2000, 0x2001, 0x2002, 0x2003, 0x2004, 0x2005, 0x2006,
    0x2007, 0x2008, 0x2009, 0x200A, 0x2028, 0x2029, 0x202F, 0x205F, 0x3000]

theorem mem_blankCodes {c : Char} (h : isBlank c) : c.toNat ∈ blankCodes := by
  simp only [isBlank, CodePoints.contains, blanks, CodePoints.insideAt] at h
  simp only [blankCodes, List.mem_cons]
  grind

/-- No blank is a letter or a number. -/
theorem not_blank_of_alphanumeric {c : Char} (h : isAlphanumeric c) : isBlank c = false := by
  have hcodes : ∀ n ∈ blankCodes, CodePoints.insideAt n false alphanumeric.boundaries = false := by
    decide +kernel
  rw [← Bool.not_eq_true]
  intro hblank
  rw [isAlphanumeric, CodePoints.contains, hcodes _ (mem_blankCodes hblank)] at h
  cases h

theorem not_blank_of_all {cs : List Char} (h : cs.all fun c => !isBlank c) :
    ∀ c ∈ cs, isBlank c = false := by
  simpa using h

/-- A text without blanks is its own trimmed text. -/
theorem trim_of_no_blank {cs : List Char} (h : ∀ c ∈ cs, isBlank c = false) : trim cs = cs := by
  have hdrop : ∀ {cs : List Char}, (∀ c ∈ cs, isBlank c = false) → cs.dropWhile isBlank = cs := by
    intro cs h
    cases cs with
    | nil => rfl
    | cons c rest => rw [List.dropWhile_cons_of_neg (by simp [h c])]
  rw [trim, hdrop h, hdrop (by simpa using h), List.reverse_reverse]

end Text

namespace FieldType

/-- What a name consists of is no blank. -/
theorem not_blank_of_namePart {c : Char} (h : isNamePart c) : Text.isBlank c = false := by
  simp only [isNamePart, Bool.or_eq_true, beq_iff_eq] at h
  rcases h with (h | rfl) | rfl
  · exact Text.not_blank_of_alphanumeric h
  · decide
  · decide

/-- `type.Nameable` says that the shapes that a type mentions have names that are read as
themselves. -/
def Nameable : FieldType → Prop
  | .optional inner => inner.Nameable
  | .list element => element.Nameable
  | .shape name => name ≠ "" ∧ named? name.toList = some (.shape name)
  | _ => True

/-- A type is nameable when the shape that it mentions is. -/
theorem nameable_iff {type : FieldType} :
    type.Nameable ↔ ∀ name, type.mentioned? = some name → (shape name).Nameable := by
  induction type with
  | optional inner ih => exact ih
  | list element ih => exact ih
  | shape name => exact ⟨fun h _ hname => Option.some.inj hname ▸ h, fun h => h name rfl⟩
  | _ => exact ⟨fun _ _ hname => (nomatch hname), fun _ => trivial⟩

/-- What a text without brackets and question mark names is read from its text. -/
theorem nameable_of_named {cs : List Char} {type : FieldType} (hcs : cs ≠ [])
    (h : named? cs = some type) : type.Nameable := by
  have hread := h
  unfold named? at h
  split at h
  all_goals try (cases h; trivial)
  split at h
  · cases h
    refine ⟨by simpa using hcs, ?_⟩
    rw [String.toList_ofList]
    exact hread
  · cases h

/-- The name of a shape has only name characters. -/
theorem namePart_of_named {cs : List Char} {name : String} (h : named? cs = some (.shape name)) :
    ∀ c ∈ cs, isNamePart c := by
  unfold named? at h
  split at h
  all_goals try cases h
  split at h
  · rename_i hall
    exact List.all_eq_true.1 hall
  · cases h

/-! ## Layers -/

/-- A question mark at the end is the layer of an optional type. -/
theorem layer_optional {text inner : List Char} (h : text = inner ++ ['?']) :
    ∃ shorter, layer text = .optional inner shorter := by
  have hpresent : text ≠ [] ∧ text.getLast? = some '?' := by simp [h]
  obtain rfl : inner = text.dropLast := by simp [h]
  exact ⟨_, by rw [layer, dif_pos hpresent]⟩

theorem layer_list {text element : List Char}
    (h : text = 'L' :: 'i' :: 's' :: 't' :: '<' :: (element ++ ['>'])) :
    ∃ shorter, layer text = .list element shorter := by
  generalize hrest : element ++ ['>'] = rest at h
  have hlast : rest.getLast? = some '>' := by simp [← hrest]
  obtain rfl : element = rest.dropLast := by simp [← hrest]
  subst h
  have hopen : ¬ ('L' :: 'i' :: 's' :: 't' :: '<' :: rest ≠ [] ∧
      ('L' :: 'i' :: 's' :: 't' :: '<' :: rest).getLast? = some '?') := by
    simp [List.getLast?_cons, hlast]
  refine ⟨element_length_lt .., ?_⟩
  rw [layer, dif_neg hopen]
  exact if_pos hlast

/-- Without question mark and brackets a text is a name. -/
theorem layer_name {text : List Char} (hquestion : '?' ∉ text) (hbracket : '<' ∉ text) :
    layer text = .name := by
  have hopen : ¬ (text ≠ [] ∧ text.getLast? = some '?') :=
    fun h => hquestion (List.mem_of_getLast? h.2)
  rw [layer, dif_neg hopen]
  split
  · exact absurd (by simp) hbracket
  · rfl

variable {cs inner element : List Char} {type : FieldType}

/-- An optional type is read from what stands before the question mark. -/
theorem ofChars_of_optional (h : ∃ shorter, layer (Text.trim cs) = .optional inner shorter) :
    ofChars? cs = (ofChars? inner).map .optional := by
  obtain ⟨_, hlayer⟩ := h
  rw [ofChars?, hlayer]

theorem ofChars_of_list (h : ∃ shorter, layer (Text.trim cs) = .list element shorter) :
    ofChars? cs = (ofChars? element).map .list := by
  obtain ⟨_, hlayer⟩ := h
  rw [ofChars?, hlayer]

/-- A name is read as the type that it names, unless there is nothing to read. -/
theorem ofChars_of_name (h : layer (Text.trim cs) = .name) :
    ofChars? cs = .ok type ↔ Text.trim cs ≠ [] ∧ named? (Text.trim cs) = some type := by
  rw [ofChars?, h]
  dsimp only
  split
  · rename_i htext hnamed
    rw [hnamed]
    simp [htext]
  · rename_i hother
    constructor
    · rintro ⟨⟩
    · rintro ⟨hne, hnamed⟩
      obtain ⟨c, rest, htext⟩ := List.exists_cons_of_ne_nil hne
      exact (hother c rest type htext hnamed).elim

/-- A type that is read from a text has shapes that are read from their names. -/
theorem nameable_of_ofChars (h : ofChars? cs = .ok type) : type.Nameable := by
  induction cs using ofChars?.induct generalizing type with
  | case1 cs inner shorter hlayer ih =>
      rw [ofChars_of_optional ⟨shorter, hlayer⟩] at h
      obtain ⟨inner', hinner, rfl⟩ := except_map_eq_ok.1 h
      show inner'.Nameable
      exact ih hinner
  | case2 cs element shorter hlayer ih =>
      rw [ofChars_of_list ⟨shorter, hlayer⟩] at h
      obtain ⟨element', helement, rfl⟩ := except_map_eq_ok.1 h
      show element'.Nameable
      exact ih helement
  | case3 cs hlayer =>
      rw [ofChars?, hlayer] at h
      cases h
  | case4 cs hlayer =>
      obtain ⟨hne, hnamed⟩ := (ofChars_of_name hlayer).1 h
      exact nameable_of_named hne hnamed
  | case5 cs hlayer =>
      obtain ⟨hne, hnamed⟩ := (ofChars_of_name hlayer).1 h
      exact nameable_of_named hne hnamed

/-! ## Texts of types -/

/-- An optional type is rendered with a question mark at the end. -/
theorem render_optional (inner : FieldType) :
    (FieldType.optional inner).render.toList = inner.render.toList ++ ['?'] := by
  rw [render, String.toList_append]
  rfl

theorem render_list (element : FieldType) : (FieldType.list element).render.toList =
    'L' :: 'i' :: 's' :: 't' :: '<' :: (element.render.toList ++ ['>']) := by
  rw [render, String.toList_append, String.toList_append]
  rfl

/-- The text of a type has no blanks. -/
theorem not_blank_of_mem_render {type : FieldType} (h : type.Nameable) :
    ∀ c ∈ type.render.toList, Text.isBlank c = false := by
  induction type with
  | optional inner ih =>
      have hmark : Text.isBlank '?' = false := by decide
      simpa [render_optional, or_imp, forall_and, hmark] using ih h
  | list element ih =>
      have hbracket : ∀ c ∈ ['L', 'i', 's', 't', '<', '>'], Text.isBlank c = false :=
        Text.not_blank_of_all (by decide)
      simp only [List.forall_mem_cons] at hbracket
      simpa [render_list, or_imp, forall_and, hbracket] using ih h
  | shape name => exact fun c hc => not_blank_of_namePart (namePart_of_named h.2 c hc)
  | _ => exact Text.not_blank_of_all (by decide)

/-- A type whose text is a name is read from it. -/
theorem read_name (hname : ∀ c ∈ type.render.toList, isNamePart c) (hne : type.render.toList ≠ [])
    (h : named? type.render.toList = some type) : read? type.render = .ok type := by
  have htrim : Text.trim type.render.toList = type.render.toList :=
    Text.trim_of_no_blank fun c hc => not_blank_of_namePart (hname c hc)
  have hlayer : layer (Text.trim type.render.toList) = .name := by
    rw [htrim]
    refine layer_name (fun hmark => ?_) fun hbracket => ?_
    · exact absurd (hname _ hmark) (by decide)
    · exact absurd (hname _ hbracket) (by decide)
  rw [read?, ofChars_of_name hlayer, htrim]
  exact ⟨hne, h⟩

/-- A type whose shapes are read from their names is read from its text. -/
theorem read_render (h : type.Nameable) : read? type.render = .ok type := by
  induction type with
  | optional inner ih =>
      have htrim := Text.trim_of_no_blank (not_blank_of_mem_render h)
      rw [render_optional] at htrim
      rw [read?, render_optional, ofChars_of_optional (layer_optional htrim)]
      rw [← read?, ih h]
      rfl
  | list element ih =>
      have htrim := Text.trim_of_no_blank (not_blank_of_mem_render h)
      rw [render_list] at htrim
      rw [read?, render_list, ofChars_of_list (layer_list htrim)]
      rw [← read?, ih h]
      rfl
  | shape name =>
      exact read_name (namePart_of_named h.2) (by simpa [render] using h.1) h.2
  | _ => exact read_name (List.all_eq_true.1 (by decide)) (by decide) rfl

/-! ## Names of shapes -/

/-- `builtIn` are the types that have names of their own. -/
def builtIn : List FieldType := [.any, .boolean, .integer, .long, .decimal, .string, .dateTime]

/-- `type.ProperlyNamed` says that the shape that a type mentions has a name of letters, numbers,
underscores and dots which is not that of a built-in type. -/
def ProperlyNamed (type : FieldType) : Prop :=
  ∀ name, type.mentioned? = some name →
    name ≠ "" ∧ (∀ c ∈ name.toList, Text.isAlphanumeric c ∨ c = '_' ∨ c = '.') ∧
      name ∉ builtIn.map render

/-- A name is that of a shape when it has only name characters and no other meaning. -/
theorem named_eq_shape {name : String} : named? name.toList = some (.shape name) ↔
    name.toList.all isNamePart ∧ name ∉ builtIn.map render := by
  rw [named?, String.ofList_toList]
  split
  all_goals try exact ⟨nofun, fun h => absurd (by decide) h.2⟩
  rename_i hany hboolean hinteger hlong hdecimal hstring hdateTime
  have hother : name ∉ builtIn.map render := by
    simp only [builtIn, render, List.map_cons, List.map_nil, List.mem_cons, List.not_mem_nil,
      or_false, not_or]
    exact ⟨hany, hboolean, hinteger, hlong, hdecimal, hstring, hdateTime⟩
  simp [hother]

/-- The names in a type are proper when they are read as themselves. -/
theorem properlyNamed_iff {type : FieldType} : type.ProperlyNamed ↔ type.Nameable := by
  rw [nameable_iff]
  refine forall₂_congr fun name _ => and_congr_right fun _ => ?_
  rw [named_eq_shape, List.all_eq_true]
  simp only [isNamePart, Bool.or_eq_true, beq_iff_eq, or_assoc]

/-- Types and their texts go together: a type whose shapes are properly named is read from its text,
what is read from any text is such a type, so it is read from its own text again, and types that are
read from texts have different texts when they differ. -/
theorem render_faithful :
    (∀ type : FieldType, type.ProperlyNamed → read? type.render = .ok type) ∧
      (∀ text type, read? text = .ok type → type.ProperlyNamed) ∧
      (∀ text type, read? text = .ok type → read? type.render = .ok type) ∧
      ∀ text text' type type', read? text = .ok type → read? text' = .ok type' →
        type.render = type'.render → type = type' := by
  have hback : ∀ type : FieldType, type.ProperlyNamed → read? type.render = .ok type :=
    fun type h => read_render (properlyNamed_iff.1 h)
  have hnamed : ∀ text type, read? text = .ok type → type.ProperlyNamed :=
    fun text type h => properlyNamed_iff.2 (nameable_of_ofChars h)
  refine ⟨hback, hnamed, fun text type h => hback type (hnamed text type h), ?_⟩
  intro text text' type type' h h' hrender
  have hread : read? type.render = .ok type := hback type (hnamed text type h)
  rw [hrender, hback type' (hnamed text' type' h')] at hread
  exact (Except.ok.inj hread).symm

/-- A list that may be absent, of items that may be absent, is read from a text with blanks inside
and outside, and its own text has none. -/
theorem render_blank_text :
    read? " List< Shop.Order ? > ?\t" = .ok (.optional (.list (.optional (.shape "Shop.Order")))) ∧
      (optional (.list (.optional (.shape "Shop.Order")))).ProperlyNamed ∧
      read? "List<Shop.Order?>?" = .ok (.optional (.list (.optional (.shape "Shop.Order")))) := by
  have hread : read? " List< Shop.Order ? > ?\t" =
      .ok (.optional (.list (.optional (.shape "Shop.Order")))) := by decide +kernel
  have hrender : (optional (.list (.optional (.shape "Shop.Order")))).render =
      "List<Shop.Order?>?" := by decide
  obtain ⟨_, hnamed, hback, _⟩ := render_faithful
  exact ⟨hread, hnamed _ _ hread, hrender ▸ hback _ _ hread⟩

end FieldType

end Reshape
