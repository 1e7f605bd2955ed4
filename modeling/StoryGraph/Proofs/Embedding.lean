import StoryGraph.Proofs.Replacing

/-!
# Documents in a script

A template is accepted if it has both placeholders. A script holds its template unchanged apart from
the places of the documents, and it holds the text of the data document unchanged. The text of the
behavior document goes through the replacement that is meant for the data document: it is unchanged
exactly if no text of the document has the data placeholder.

Main definitions: `documentTexts`. Main results: `Template.verbatim_iff` and
`Template.embeds_verbatim`.
-/

namespace StoryGraph

/-! ## Texts between braces -/

namespace Json

theorem firstPart_eq (closing : List Char) (parts : List String) :
    ∃ inner, firstPart closing parts = inner ++ closing := by
  have hlater : ∀ parts : List String, ∃ inner, laterParts closing parts = inner ++ closing := by
    intro parts
    induction parts with
    | nil => exact ⟨[], rfl⟩
    | cons part parts ih =>
        obtain ⟨inner, hinner⟩ := ih
        exact ⟨',' :: (part.toList ++ inner), by rw [laterParts, hinner]; simp⟩
  cases parts with
  | nil => exact ⟨[], rfl⟩
  | cons part parts =>
      obtain ⟨inner, hinner⟩ := hlater parts
      exact ⟨part.toList ++ inner, by rw [firstPart, hinner, List.append_assoc]⟩

theorem print_record_braced (fields : Fields) :
    Braced (print (.record fields)).toList := by
  obtain ⟨inner, hinner⟩ := firstPart_eq "\x7d".toList (printFields fields)
  rw [print, toList_bracketed, hinner]
  exact ⟨inner, rfl⟩

end Json

open Template

theorem BehaviorDocument.toJson_braced (document : BehaviorDocument) :
    Braced document.toJson.toList :=
  document.toJson_eq_print ▸ Json.print_record_braced _

theorem DataDocument.toJson_braced (document : DataDocument) : Braced document.toJson.toList :=
  document.toJson_eq_print ▸ Json.print_record_braced _

def documentTexts (behavior : BehaviorDocument) (data : DataDocument) : Placeholder → List Char
  | .behavior => behavior.toJson.toList
  | .data => data.toJson.toList

namespace Template

/-! ## Places in a script -/

section

variable {pieces before after : List Piece} {texts others : Placeholder → List Char}
  {p : Placeholder}

theorem Whole.place_of_occurs (h : Whole pieces) (hmarked : p.word <:+: source pieces) :
    ∃ before after, pieces = before ++ .place p :: after := by
  obtain ⟨first, last, heq⟩ := hmarked
  have hbegins : p.word <+: (source pieces).drop first.length := by
    rw [← heq, List.append_assoc, List.drop_left]
    exact List.prefix_append _ _
  obtain ⟨before, after, hpieces, -⟩ := h p first.length hbegins
  exact ⟨before, after, hpieces⟩

theorem infix_fill (texts : Placeholder → List Char) :
    texts p <:+: fill texts (before ++ .place p :: after) := by
  rw [fill, List.flatMap_append, List.flatMap_cons]
  exact ⟨_, _, List.append_assoc _ _ _⟩

/-- A text that differs in one place from another one does not fill a template alike. -/
theorem fill_ne (hsame : ∀ q ≠ p, texts q = others q) {a d : Char} {u v w : List Char} (hne : a ≠ d)
    (htext : texts p = u ++ a :: v) (hother : others p = u ++ d :: w) :
    fill texts (before ++ .place p :: after) ≠ fill others (before ++ .place p :: after) := by
  intro h
  have hdiffer : ∀ x y : List Char, texts p ++ x ≠ others p ++ y := by
    intro x y heq
    rw [htext, hother, List.append_assoc, List.append_assoc] at heq
    exact hne (List.cons.inj (List.append_cancel_left heq)).1
  induction before with
  | nil =>
      rw [List.nil_append, fill_cons, fill_cons] at h
      exact hdiffer _ _ h
  | cons piece before ih =>
      rw [List.cons_append, fill_cons, fill_cons] at h
      cases piece with
      | char c => exact ih (List.cons.inj h).2
      | place q =>
          by_cases hq : q = p
          · subst hq
            exact hdiffer _ _ h
          · have htexts : Piece.text texts (.place q) = Piece.text others (.place q) := hsame q hq
            rw [htexts] at h
            exact ih (List.append_cancel_left h)

end

/-! ## Scripts -/

section

variable {template script : String} {behavior : BehaviorDocument} {data : DataDocument}

theorem embed_eq_ok : embed template behavior data = .ok script ↔
    (∀ p : Placeholder, p.word <:+: template.toList) ∧
      script = String.ofList (replaceAll Placeholder.data.word data.toJson.toList 0
        (replaceAll Placeholder.behavior.word behavior.toJson.toList 0 template.toList)) := by
  have hall : (∀ p : Placeholder, p.word <:+: template.toList) ↔
      occurs behaviorPlaceholder.toList template.toList = true ∧
        occurs dataPlaceholder.toList template.toList = true := by
    rw [occurs_iff, occurs_iff]
    exact Placeholder.forall_iff
  rw [hall]
  unfold embed
  dsimp only
  cases hfirst : occurs behaviorPlaceholder.toList template.toList with
  | false => simp
  | true =>
      cases hsecond : occurs dataPlaceholder.toList template.toList with
      | false => simp
      | true =>
          rw [if_neg (by decide), if_neg (by decide)]
          exact ⟨fun h => ⟨⟨rfl, rfl⟩, (Except.ok.inj h).symm⟩, fun h => congrArg _ h.2.symm⟩

/-- **What a script is:** the pieces of the template, with texts in the places of the documents. -/
theorem toList_of_embed {pieces : List Piece} (h : embed template behavior data = .ok script)
    (hsource : source pieces = template.toList) (hfound : Found pieces) :
    script.toList = fill (scriptTexts behavior.toJson.toList data.toJson.toList) pieces := by
  obtain ⟨-, rfl⟩ := embed_eq_ok.mp h
  rw [String.toList_ofList, ← hsource, replaceAll_source _ hfound,
    replaceAll_halfway behavior.toJson_braced hfound]

/-- **When a script is the template verbatim:** no placeholders overlap, and no text of the behavior
document has the placeholder of the data document. -/
theorem verbatim_iff (h : embed template behavior data = .ok script) :
    Verbatim (documentTexts behavior data) template.toList script.toList ↔
      Separate template.toList ∧
        ∀ s ∈ behavior.texts, ¬ Placeholder.data.word <:+: s.toList := by
  have hjson := behavior.infix_toJson (Placeholder.marker_word .data)
  constructor
  · rintro ⟨pieces, hsource, hfill, hwhole⟩
    refine ⟨hsource ▸ hwhole.separate, fun s hs hmarked => ?_⟩
    have hmem := (embed_eq_ok.mp h).1 .behavior
    rw [← hsource] at hmem
    obtain ⟨before, after, rfl⟩ := hwhole.place_of_occurs hmem
    obtain ⟨inner, hinner⟩ := data.toJson_braced
    obtain ⟨rest, hword⟩ : ∃ rest, Placeholder.data.word = '_' :: rest := ⟨_, rfl⟩
    have hinside : Placeholder.data.word <:+: behavior.toJson.toList := hjson.mpr ⟨s, hs, hmarked⟩
    obtain ⟨u, v, w, hkept, hreplaced⟩ := replaceAll_changes hword hinner hinside
    have hscript := toList_of_embed h hsource hwhole.found
    rw [← hfill] at hscript
    -- The texts first differ where one has the underscore of the placeholder and one a brace.
    have hsame : ∀ q ≠ Placeholder.behavior, documentTexts behavior data q =
        scriptTexts behavior.toJson.toList data.toJson.toList q := by
      intro q hq
      cases q with
      | behavior => exact absurd rfl hq
      | data => rfl
    exact fill_ne hsame (by decide) hkept hreplaced hscript
  · rintro ⟨hseparate, hnone⟩
    obtain ⟨pieces, hsource, hfound, hwhole⟩ := exists_found template.toList
    have hnot : ¬ Placeholder.data.word <:+: behavior.toJson.toList := by
      rw [hjson]
      rintro ⟨s, hs, hmarked⟩
      exact hnone s hs hmarked
    have htexts : scriptTexts behavior.toJson.toList data.toJson.toList =
        documentTexts behavior data := by
      funext p
      cases p with
      | behavior => exact replaceAll_of_not_infix hnot
      | data => rfl
    exact ⟨pieces, hsource, htexts ▸ (toList_of_embed h hsource hfound).symm, hwhole hseparate⟩

/-- A script does not hold the text of a behavior document that was altered, unless the data
document brings the placeholder back. -/
theorem not_infix_of_embed (h : embed template behavior data = .ok script) {s : String}
    (hs : s ∈ behavior.texts) (hmarked : Placeholder.data.word <:+: s.toList)
    (hdata : ¬ Placeholder.data.word <:+: data.toJson.toList) :
    ¬ behavior.toJson.toList <:+: script.toList := by
  intro hscript
  have hmarker := Placeholder.marker_word .data
  have hinside := (behavior.infix_toJson hmarker).mpr ⟨s, hs, hmarked⟩
  have hleft := hinside.trans hscript
  obtain ⟨-, rfl⟩ := embed_eq_ok.mp h
  rw [String.toList_ofList] at hleft
  exact not_infix_replaceAll hmarker data.toJson_braced hdata _ hleft

/-- **When documents come into a script as they are.** A template is accepted if it has both
placeholders. Its pieces do not depend on the documents: a script has the other characters of the
template, the text of the data document in its places, and in the places of the behavior document
what the replacement of the data placeholder makes of that document's text. The script is the
template verbatim exactly if no placeholders overlap and no version, string or node id of the
behavior document has the data placeholder. Then both texts occur in it, and they are read as the
documents. If one of those has it and the text of the data document has not, the text of the
behavior document is nowhere in the script. -/
theorem embeds_verbatim (template : String) :
    (∃ pieces, source pieces = template.toList ∧ (Whole pieces ↔ Separate template.toList) ∧
      ∀ (behavior : BehaviorDocument) (data : DataDocument) (script : String),
        embed template behavior data = .ok script →
          script.toList = fill (scriptTexts behavior.toJson.toList data.toJson.toList) pieces) ∧
    ∀ (behavior : BehaviorDocument) (data : DataDocument),
      ((∃ script, embed template behavior data = .ok script) ↔
        ∀ p : Placeholder, p.word <:+: template.toList) ∧
      ∀ script, embed template behavior data = .ok script →
        (Verbatim (documentTexts behavior data) template.toList script.toList ↔
          Separate template.toList ∧
            ∀ s ∈ behavior.texts, ¬ Placeholder.data.word <:+: s.toList) ∧
        (Verbatim (documentTexts behavior data) template.toList script.toList →
          behavior.toJson.toList <:+: script.toList ∧ data.toJson.toList <:+: script.toList ∧
          (behavior.Legible → behavior.Within propertyDepth →
            BehaviorDocument.parse behavior.toJson = .ok behavior) ∧
          (data.Legible → data.Within propertyDepth →
            DataDocument.parse data.toJson = .ok data)) ∧
        ∀ s ∈ behavior.texts, Placeholder.data.word <:+: s.toList →
          ¬ Placeholder.data.word <:+: data.toJson.toList →
            ¬ behavior.toJson.toList <:+: script.toList := by
  refine ⟨?_, fun behavior data => ⟨?_, fun script h => ?_⟩⟩
  · obtain ⟨pieces, hsource, hfound, hwhole⟩ := exists_found template.toList
    refine ⟨pieces, hsource, ⟨fun h => hsource ▸ h.separate, hwhole⟩, fun _ _ _ h => ?_⟩
    exact toList_of_embed h hsource hfound
  · exact ⟨fun ⟨_, h⟩ => (embed_eq_ok.mp h).1, fun h => ⟨_, embed_eq_ok.mpr ⟨h, rfl⟩⟩⟩
  · have hoccurs := (embed_eq_ok.mp h).1
    refine ⟨verbatim_iff h, ?_, fun s hs => not_infix_of_embed h hs⟩
    rintro ⟨pieces, hsource, hfill, hwhole⟩
    have hplace : ∀ p, documentTexts behavior data p <:+: script.toList := by
      intro p
      obtain ⟨before, after, rfl⟩ := hwhole.place_of_occurs (p := p) (hsource ▸ hoccurs p)
      exact hfill ▸ infix_fill _
    refine ⟨hplace .behavior, hplace .data, fun hlegible hroom => ?_, fun hlegible hroom => ?_⟩
    · exact BehaviorDocument.parse_toJson.mpr
        ⟨hroom, BehaviorDocument.reread?_eq_self.mpr hlegible⟩
    · exact DataDocument.parse_toJson.mpr ⟨hroom, DataDocument.reread?_eq_self.mpr hlegible⟩

end

def plainTemplate : String := "const b = __LORE_BEHAVIOR__; const d = __LORE_DATA__;"

def labelled (label : String) : BehaviorDocument where
  strings := ⟨["source_literal", "label", label]⟩
  nodeIds := ["note"]
  nodes := [⟨0, ⟨[(1, .string 2)]⟩⟩]

def sword : DataDocument where
  strings := ⟨["label", "Excalibur", "weight"]⟩
  items := [⟨"excalibur", 1, ⟨[(0, .string 1), (2, .number 2.5)]⟩⟩]

theorem infix_plainTemplate : ∀ p : Placeholder, p.word <:+: plainTemplate.toList := by
  decide +kernel

/-- A label that is not a placeholder comes into the script. -/
theorem embeds_label : ∃ script, embed plainTemplate (labelled "__LORE__") sword = .ok script ∧
    Verbatim (documentTexts (labelled "__LORE__") sword) plainTemplate.toList script.toList ∧
    (labelled "__LORE__").toJson.toList <:+: script.toList ∧
    BehaviorDocument.parse (labelled "__LORE__").toJson = .ok (labelled "__LORE__") ∧
    DataDocument.parse sword.toJson = .ok sword := by
  obtain ⟨haccepted, hscripts⟩ := (embeds_verbatim plainTemplate).2 (labelled "__LORE__") sword
  obtain ⟨script, h⟩ := haccepted.mpr infix_plainTemplate
  obtain ⟨hiff, hkept, -⟩ := hscripts script h
  have hverbatim := hiff.mpr ⟨by decide +kernel, by decide +kernel⟩
  obtain ⟨hbehavior, -, hread, hdata⟩ := hkept hverbatim
  have hlabelled : (labelled "__LORE__").Legible := by
    intro node hnode pair hpair x hx
    obtain rfl := List.mem_singleton.mp hnode
    obtain rfl := List.mem_singleton.mp hpair
    exact absurd hx List.not_mem_nil
  have hsword : sword.Legible := by
    intro entry hentry pair hpair x hx
    obtain rfl := List.mem_singleton.mp hentry
    simp only [List.mem_cons, List.not_mem_nil, or_false] at hpair
    rcases hpair with rfl | rfl
    · exact absurd hx List.not_mem_nil
    · obtain rfl := List.mem_singleton.mp hx
      exact ⟨⟨2.5, by decide +kernel⟩, rfl, by unfold Number.ReadsBack; rfl⟩
  exact ⟨script, h, hverbatim, hbehavior, hread hlabelled (by decide +kernel),
    hdata hsword (by decide +kernel)⟩

/-- **The data placeholder as a label is replaced too.** The script does not hold the text of the
behavior document. -/
theorem label_is_replaced : ∃ script,
    embed plainTemplate (labelled "__LORE_DATA__") sword = .ok script ∧
      ¬ Verbatim (documentTexts (labelled "__LORE_DATA__") sword) plainTemplate.toList
        script.toList ∧
      ¬ (labelled "__LORE_DATA__").toJson.toList <:+: script.toList := by
  have h : embed plainTemplate (labelled "__LORE_DATA__") sword = .ok _ :=
    embed_eq_ok.mpr ⟨infix_plainTemplate, rfl⟩
  have hmem : "__LORE_DATA__" ∈ (labelled "__LORE_DATA__").texts := by decide
  refine ⟨_, h, fun hverbatim => ?_, not_infix_of_embed h hmem List.infix_rfl ?_⟩
  · exact ((verbatim_iff h).mp hverbatim).2 _ hmem List.infix_rfl
  · rw [sword.toJson_eq_print, Json.infix_print (Placeholder.marker_word .data)]
    decide +kernel

end Template

end StoryGraph
