import FormulaOcr.Proofs.Text.Search
import FormulaOcr.SiliconFlow.Classification

/-! What the rules tell of a model. Both tables look for words in its id, and one for the last step
of it. A model that does nothing but transcribe also sees pictures; two rules are overruled by
those in front of them; and a paid variant is classified as the model itself, since no word has a slash. -/

namespace FormulaOcr.SiliconFlow

open FormulaOcr.Text

variable {word part : String} {lead id : List Char} {rules : List Rule} {name : String}

theorem upperHas_iff : upperHas word id = true ↔ word.toList <:+: uppercase id :=
  occurs_iff

theorem has_iff : has word id = true ↔ word.toList <:+: id :=
  occurs_iff

/-- With a word, an id has the parts of the word. -/
theorem upperHas_of_part (hpart : part.toList <:+: word.toList) (h : upperHas word id = true) :
    upperHas part id = true :=
  upperHas_iff.2 (hpart.trans (upperHas_iff.1 h))

/-- A word that an id has as it stands, it also has in upper case. -/
theorem upperHas_of_has (hpart : part.toList <:+: uppercase word.toList) (h : has word id = true) :
    upperHas part id = true :=
  upperHas_iff.2 (hpart.trans ((has_iff.1 h).flatMap upper))

/-! Which rule is reported. -/

theorem isSome_firstRule {id : String} :
    (firstRule rules id).isSome = true ↔ ∃ rule ∈ rules, rule.accepts id.toList = true := by
  rw [firstRule, Option.isSome_map, List.find?_isSome]

theorem firstRule_congr {id id' : String}
    (h : ∀ rule ∈ rules, rule.accepts id.toList = rule.accepts id'.toList) :
    firstRule rules id = firstRule rules id' := by
  induction rules with
  | nil => rfl
  | cons rule rules ih =>
    have hrest := ih fun other hother => h other (List.mem_cons_of_mem rule hother)
    unfold firstRule at hrest ⊢
    rw [List.find?_cons, List.find?_cons, h rule List.mem_cons_self]
    cases rule.accepts id'.toList
    · exact hrest
    · rfl

/-- Whatever the rules with a name accept, a rule in front of them accepts too. -/
def Overruled (rules : List Rule) (name : String) (id : List Char) : Prop :=
  ∀ rule ∈ rules, rule.name = name → rule.accepts id = true →
    ∃ earlier ∈ rules.takeWhile (·.name != name), earlier.accepts id = true

theorem Overruled.firstRule_ne {id : String} (h : Overruled rules name id.toList) :
    firstRule rules id ≠ some name := by
  intro hfirst
  obtain ⟨rule, hfound, rfl⟩ := Option.map_eq_some_iff.1 hfirst
  obtain ⟨haccepts, before, after, rfl, hbefore⟩ := List.find?_eq_some_iff_append.1 hfound
  obtain ⟨earlier, hearlier, hcontra⟩ := h rule (by simp) rfl haccepts
  -- the rules that are in front of all with the name are in front of this one
  have hmem : earlier ∈ before := by
    rw [List.takeWhile_append] at hearlier
    split_ifs at hearlier
    · rwa [List.takeWhile_cons_of_neg (by simp), List.append_nil] at hearlier
    · exact (List.takeWhile_prefix _).subset hearlier
  exact absurd hcontra (by simpa using hbefore earlier hmem)

/-- The one rule with a name is overruled by a rule that accepts more. -/
theorem overruled_of (rule earlier : Rule) (hrule : rules.filter (·.name == name) = [rule])
    (hearlier : earlier ∈ rules.takeWhile (·.name != name))
    (h : rule.accepts id = true → earlier.accepts id = true) : Overruled rules name id := by
  intro other hother hname haccepts
  have hmem : other ∈ rules.filter (·.name == name) :=
    List.mem_filter.2 ⟨hother, beq_iff_eq.2 hname⟩
  rw [hrule, List.mem_singleton] at hmem
  exact ⟨earlier, hearlier, h (hmem ▸ haccepts)⟩

theorem overruled_paddleocr (id : List Char) : Overruled visionRules "paddleocr" id :=
  overruled_of ⟨"paddleocr", upperHas "PADDLEOCR"⟩ ⟨"ocr", upperHas "OCR"⟩ rfl
    (.tail _ (.head _)) (upperHas_of_part (by decide))

theorem overruled_vl2 (id : List Char) : Overruled visionRules "vl2" id :=
  overruled_of ⟨"vl2", has "vl2"⟩ ⟨"vl", upperHas "VL"⟩ rfl (.head _)
    (upperHas_of_has (by decide +kernel))

/-! Models that transcribe and do nothing else. -/

/-- Each rule of these models accepts no more than a rule of those that see pictures. -/
theorem accepted_of_ocrOnly {rule : Rule} (hrule : rule ∈ ocrOnlyRules)
    (h : rule.accepts id = true) : ∃ seeing ∈ visionRules, seeing.accepts id = true := by
  have hocr (haccepts : upperHas "OCR" id = true) :
      ∃ seeing ∈ visionRules, seeing.accepts id = true :=
    ⟨⟨"ocr", upperHas "OCR"⟩, .tail _ (.head _), haccepts⟩
  simp only [ocrOnlyRules, List.mem_cons, List.not_mem_nil, or_false] at hrule
  rcases hrule with rfl | rfl | rfl
  · exact hocr (upperHas_of_part (by decide) h)
  · exact hocr (upperHas_of_part (by decide) h)
  · exact ⟨⟨"captioner", upperHas "CAPTIONER"⟩,
      .tail _ (.tail _ (.tail _ (.tail _ (.head _)))), h⟩

theorem isVision_of_isOcrOnly {id : String} (h : (classify id).isOcrOnly = true) :
    (classify id).isVision = true := by
  obtain ⟨rule, hrule, haccepts⟩ := isSome_firstRule.1 h
  exact isSome_firstRule.2 (accepted_of_ocrOnly hrule haccepts)

/-! Paid variants. -/

/-- A rule says the same of an id whether or not a lead stands in front of it. -/
def Rule.Ignores (rule : Rule) (lead : List Char) : Prop :=
  ∀ id, rule.accepts (lead ++ id) = rule.accepts id

theorem ignores_has (h : EndsLead '/' lead) (hslash : '/' ∉ word.toList)
    (hword : ¬ word.toList <:+: lead) (name : String) : Rule.Ignores ⟨name, has word⟩ lead := by
  intro id
  rw [Bool.eq_iff_iff, has_iff, has_iff, infix_append_lead h hslash, or_iff_right hword]

theorem ignores_upperHas (h : EndsLead '/' (uppercase lead)) (hslash : '/' ∉ word.toList)
    (hword : ¬ word.toList <:+: uppercase lead) (name : String) :
    Rule.Ignores ⟨name, upperHas word⟩ lead := by
  intro id
  have happend : uppercase (lead ++ id) = uppercase lead ++ uppercase id := List.flatMap_append
  rw [Bool.eq_iff_iff, upperHas_iff, upperHas_iff, happend, infix_append_lead h hslash,
    or_iff_right hword]

theorem ignores_isGlmVision (h : EndsLead '/' lead) (name : String) :
    Rule.Ignores ⟨name, isGlmVision⟩ lead := by
  intro id
  dsimp only [isGlmVision]
  rw [afterLast_append h]

/-- What stands in front of the id of a model for its paid variant ends with a slash, in upper case
too, and no rule looks for any of it. -/
theorem ignores_paid : ∀ rule ∈ visionRules ++ ocrOnlyRules, rule.Ignores "Pro/".toList := by
  have hlead : EndsLead '/' "Pro/".toList := .inr (by decide)
  have hupper : uppercase "Pro/".toList = "PRO/".toList := by decide +kernel
  have hupperLead : EndsLead '/' (uppercase "Pro/".toList) := by
    rw [hupper]
    exact .inr (by decide)
  have hupperHas {word : String} (hslash : '/' ∉ word.toList)
      (hword : ¬ word.toList <:+: "PRO/".toList) (name : String) :
      Rule.Ignores ⟨name, upperHas word⟩ "Pro/".toList :=
    ignores_upperHas hupperLead hslash (hupper ▸ hword) name
  simp only [visionRules, ocrOnlyRules, List.cons_append, List.nil_append, List.forall_mem_cons]
  refine ⟨?_, ?_, ?_, ?_, ?_, ?_, ?_, ?_, ?_, ?_, ?_, fun _ hnone => absurd hnone List.not_mem_nil⟩
  case refine_6 => exact ignores_has hlead (by decide) (by decide) _
  case refine_7 => exact ignores_has hlead (by decide) (by decide) _
  case refine_8 => exact ignores_isGlmVision hlead _
  all_goals exact hupperHas (by decide) (by decide) _

theorem classify_paid (id : String) : classify ("Pro/" ++ id) = classify id := by
  have hignores {rules : List Rule} (h : rules ⊆ visionRules ++ ocrOnlyRules) :
      firstRule rules ("Pro/" ++ id) = firstRule rules id :=
    firstRule_congr fun rule hrule => by
      rw [String.toList_append]
      exact ignores_paid rule (h hrule) id.toList
  rw [classify, hignores (List.subset_append_left _ _), hignores (List.subset_append_right _ _)]
  rfl

/-- The name of a paid variant is that of the model with a mark behind it. -/
theorem displayName_paid {id : String} (h : ¬ "Pro/".toList <+: id.toList) :
    displayName ("Pro/" ++ id) = displayName id ++ " (Pro)" := by
  have hpaid : dropFront? "Pro/".toList ("Pro/" ++ id).toList = some id.toList := by
    have hprefix := List.isPrefixOf_iff_prefix.2 (List.prefix_append "Pro/".toList id.toList)
    rw [String.toList_append, dropFront?, if_pos hprefix, List.drop_left]
  have hbare : dropFront? "Pro/".toList id.toList = none := by
    rw [dropFront?, if_neg (List.isPrefixOf_iff_prefix.not.2 h)]
  rw [displayName, displayName, hpaid, hbare]
  simp only [Option.isSome_some, Option.isSome_none, Option.getD_some, Option.getD_none]
  rw [if_pos trivial, if_neg Bool.false_ne_true, String.ofList_append]
  rfl

/-- The two tables agree on every id: a model that does nothing but transcribe sees pictures. No
model is reported to see pictures by the rules for `paddleocr` and `vl2`, as a rule in front of them
accepts all that they accept. A paid variant is classified as the model itself, and its name is that
of the model with a mark. -/
theorem classification_coherent (id : String) :
    ((classify id).isOcrOnly = true → (classify id).isVision = true) ∧
    (∀ name ∈ ["paddleocr", "vl2"], (classify id).visionRule ≠ some name ∧
      ∀ rule ∈ visionRules, rule.name = name → rule.accepts id.toList = true →
        ∃ earlier ∈ visionRules.takeWhile (·.name != name), earlier.accepts id.toList = true) ∧
    classify ("Pro/" ++ id) = classify id ∧
    (¬ "Pro/".toList <+: id.toList → displayName ("Pro/" ++ id) = displayName id ++ " (Pro)") := by
  refine ⟨isVision_of_isOcrOnly, fun name hname => ?_, classify_paid id, displayName_paid⟩
  have hoverruled : Overruled visionRules name id.toList := by
    simp only [List.mem_cons, List.not_mem_nil, or_false] at hname
    rcases hname with rfl | rfl
    · exact overruled_paddleocr _
    · exact overruled_vl2 _
  exact ⟨hoverruled.firstRule_ne, hoverruled⟩

/-- A model that transcribes, and its paid variant. -/
theorem classification_coherent_paddle :
    (classify "PaddlePaddle/PaddleOCR-VL-1.5").isVision = true ∧
      (classify "Pro/PaddlePaddle/PaddleOCR-VL-1.5").isOcrOnly = true ∧
      displayName "Pro/PaddlePaddle/PaddleOCR-VL-1.5" = "PaddleOCR-VL-1.5 (Pro)" := by
  have honly : (classify "PaddlePaddle/PaddleOCR-VL-1.5").isOcrOnly = true := by decide +kernel
  have hname : displayName "PaddlePaddle/PaddleOCR-VL-1.5" = "PaddleOCR-VL-1.5" := by
    decide +kernel
  obtain ⟨hvision, -, hpaid, hmarked⟩ := classification_coherent "PaddlePaddle/PaddleOCR-VL-1.5"
  refine ⟨hvision honly, ?_, ?_⟩
  · rw [← hpaid] at honly
    exact honly
  · rw [hname] at hmarked
    exact hmarked (by decide)

end FormulaOcr.SiliconFlow
