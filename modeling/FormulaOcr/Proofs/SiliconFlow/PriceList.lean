import FormulaOcr.Proofs.Dictionary
import FormulaOcr.Proofs.Number.Numerals
import FormulaOcr.SiliconFlow.Pricing

/-! The public price list, read as it was rendered. A row begins at its link, and no link begins in
a text between rows, so that the search finds all rows and nothing else, in page order. Each row
then counts for itself: one without two prices is left out, and one for a model that was there
before replaces its prices. -/

namespace FormulaOcr

namespace Text

variable {mark : Char} {word a b t : List Char}

theorem dropFront?_append (word t : List Char) : dropFront? word (word ++ t) = some t := by
  rw [dropFront?, if_pos (List.isPrefixOf_iff_prefix.2 (List.prefix_append word t)),
    List.drop_left]

theorem dropFront?_eq_none (h : ¬ word <+: t) : dropFront? word t = none := by
  rw [dropFront?, if_neg fun hfirst => h (List.isPrefixOf_iff_prefix.1 hfirst)]

theorem splitFirst_append (h : mark ∉ a) (b : List Char) :
    splitFirst mark (a ++ mark :: b) = some (a, b) := by
  induction a with
  | nil => rw [List.nil_append, splitFirst, if_pos rfl]
  | cons c a ih =>
    rw [List.mem_cons, not_or] at h
    rw [List.cons_append, splitFirst, if_neg (Ne.symm h.1), ih h.2, Option.map_some]

/-- A word that lacks a character stands in front of it if it stands at the front. -/
theorem prefix_of_notMem (h : mark ∉ word) (hfirst : word <+: a ++ mark :: b) : word <+: a := by
  obtain ⟨rest, hrest⟩ := hfirst
  rcases List.append_eq_append_iff.1 hrest with ⟨behind, hbehind, -⟩ | ⟨more, hmore, hcons⟩
  · exact ⟨behind, hbehind.symm⟩
  · cases more with
    | nil => exact ⟨[], by rw [hmore, List.append_nil, List.append_nil]⟩
    | cons c more =>
      obtain ⟨rfl, -⟩ := List.cons.inj hcons
      exact absurd (hmore ▸ List.mem_append_right a List.mem_cons_self) h

/-- A word that lacks a character stands on one side of it. -/
theorem infix_of_notMem (h : mark ∉ word) (hrun : word <:+: a ++ mark :: b) :
    word <:+: a ∨ word <:+: b := by
  induction a with
  | nil =>
    rw [List.nil_append, List.infix_cons_iff] at hrun
    rcases hrun with hfirst | hrun
    · exact .inl (prefix_of_notMem (a := []) h hfirst).isInfix
    · exact .inr hrun
  | cons c a ih =>
    rw [List.cons_append, List.infix_cons_iff, ← List.cons_append] at hrun
    rcases hrun with hfirst | hrun
    · exact .inl (prefix_of_notMem h hfirst).isInfix
    · exact (ih hrun).imp_left fun hleft => List.infix_cons_iff.2 (.inr hleft)

end Text

namespace SiliconFlow

open FormulaOcr.Text FormulaOcr.Number

/-! How the page shows rows. -/

/-- A price cell shows the marker of free models or a numeral. -/
def IsCell (content : List Char) : Prop :=
  content = freeMarker ∨ content ≠ [] ∧ Numeric content

/-- A row whose name can stand in an address and in a text, with two price cells. -/
structure Row.Presentable (r : Row) : Prop where
  named : r.name ≠ []
  plain : ∀ c ∈ r.name, c ≠ '"' ∧ c ≠ '<' ∧ c ≠ '>'
  input : IsCell r.input
  output : IsCell r.output

/-- What begins a row. -/
def linkMark : List Char := "href=\"".toList

/-- The way a page is marked up: the tags in front of an address, the address in front of the name
of a model, and what else stands in the tag of the link and in those of the cells. -/
structure Markup where
  tags : List Char
  address : List Char
  link : List Char
  cell : List Char
  tags_plain : ¬ linkMark <:+: tags
  address_plain : '"' ∉ address
  link_plain : '>' ∉ link
  cell_plain : '>' ∉ cell

namespace Markup

variable (m : Markup)

def linked (name : List Char) : List Char :=
  linkMark ++ (m.address ++ "target=".toList ++ name) ++ '"' :: m.link ++ '>' :: name ++
    "</a></div>".toList

def celled (content : List Char) : List Char :=
  "<div".toList ++ m.cell ++ '>' :: content ++ "</div>".toList

/-- A row from its link on. -/
def shown (r : Row) : List Char :=
  m.linked r.name ++ m.celled r.input ++ m.celled r.output

def rendered (r : Row) : List Char :=
  '<' :: m.tags ++ ' ' :: m.shown r

/-- A page: a text, and each row with a text behind it. -/
def page (lead : List Char) (entries : List (Row × List Char)) : List Char :=
  lead ++ entries.flatMap fun entry => m.rendered entry.1 ++ entry.2

end Markup

/-! One row. -/

variable {m : Markup} {r : Row} {name content : List Char}

theorem namesTarget_append (front : List Char) (hname : name ≠ []) :
    namesTarget (front ++ "target=".toList ++ name) = true := by
  have hshort : 7 < ("target=".toList ++ name).length := by
    have hpos := List.length_pos_iff.2 hname
    rw [List.length_append]
    change 7 < 7 + name.length
    omega
  have hfound {t : List Char} (ht : 7 < t.length) (hfirst : "target=".toList <+: t) :
      ∃ rest, dropFront? "target=".toList t = some rest ∧ rest.isEmpty = false := by
    obtain ⟨rest, rfl⟩ := hfirst
    refine ⟨rest, dropFront?_append _ rest, ?_⟩
    rw [List.isEmpty_eq_false_iff]
    rintro rfl
    rw [List.append_nil] at ht
    exact absurd ht (by decide)
  rw [List.append_assoc]
  induction front with
  | nil =>
    obtain ⟨rest, hdrop, hne⟩ := hfound hshort (List.prefix_append _ _)
    change namesTarget ('t' :: ("arget=".toList ++ name)) = true
    change dropFront? _ ('t' :: ("arget=".toList ++ name)) = _ at hdrop
    rw [namesTarget, hdrop]
    simp [hne]
  | cons c front ih =>
    by_cases hfirst : "target=".toList <+: c :: front ++ ("target=".toList ++ name)
    · obtain ⟨rest, hdrop, hne⟩ := hfound (by rw [List.length_append]; omega) hfirst
      rw [List.cons_append] at hdrop ⊢
      rw [namesTarget, hdrop]
      simp [hne]
    · have hdrop := dropFront?_eq_none hfirst
      rw [List.cons_append] at hdrop ⊢
      rw [namesTarget, hdrop]
      exact ih

theorem behind?_append {stop : Char} {a : List Char} (h : stop ∉ a) (b : List Char) :
    behind? stop (a ++ stop :: b) = some b := by
  rw [behind?, splitFirst_append h, Option.map_some]

theorem runUpTo?_append {stop : Char} {a : List Char} (hne : a ≠ []) (h : stop ∉ a)
    (b : List Char) : runUpTo? stop (a ++ stop :: b) = some (a, stop :: b) := by
  have hrun : ∀ c ∈ a, (c != stop) = true := by
    intro c hc
    rw [bne_iff_ne]
    rintro rfl
    exact h hc
  have htake : (a ++ stop :: b).takeWhile (· != stop) = a := by
    rw [List.takeWhile_append_of_pos hrun, List.takeWhile_cons_of_neg (by simp), List.append_nil]
  have hdrop : (a ++ stop :: b).dropWhile (· != stop) = stop :: b := by
    rw [List.dropWhile_append_of_pos hrun, List.dropWhile_cons_of_neg (by simp)]
  rw [runUpTo?, htake, hdrop, if_neg (by simpa using hne)]

theorem isPriceChar_of_numeric (h : Numeric content) : ∀ c ∈ content, isPriceChar c = true := by
  intro c hc
  rcases h c hc with rfl | hdigit
  · rfl
  · rw [isPriceChar, Bool.or_eq_true]
    exact .inr (isDigit_of_isAsciiDigit hdigit)

/-- A cell shows the marker, or else a numeral up to its end. -/
theorem content_cases (hcell : IsCell content) (t : List Char) :
    content = freeMarker ∧ dropFront? freeMarker (content ++ '<' :: t) = some ('<' :: t) ∨
      dropFront? freeMarker (content ++ '<' :: t) = none ∧
        (content ++ '<' :: t).takeWhile isPriceChar = content ∧
        (content ++ '<' :: t).dropWhile isPriceChar = '<' :: t := by
  rcases hcell with rfl | ⟨hne, hnumeric⟩
  · exact .inl ⟨rfl, dropFront?_append freeMarker _⟩
  · have hmarker : ¬ freeMarker <+: content ++ '<' :: t := by
      intro hfirst
      obtain ⟨c, rest, rfl⟩ := List.exists_cons_of_ne_nil hne
      obtain ⟨behind, hbehind⟩ := hfirst
      obtain ⟨rfl, -⟩ := List.cons.inj hbehind
      have hrange := toNat_of_numeric hnumeric List.mem_cons_self
      exact absurd hrange (by decide)
    have hprice := isPriceChar_of_numeric hnumeric
    have hend : ¬ isPriceChar '<' = true := by decide
    refine .inr ⟨dropFront?_eq_none hmarker, ?_, ?_⟩
    · rw [List.takeWhile_append_of_pos hprice, List.takeWhile_cons_of_neg hend, List.append_nil]
    · rw [List.dropWhile_append_of_pos hprice, List.dropWhile_cons_of_neg hend]

/-- A cell is read as it is shown. -/
theorem cell?_celled (hcell : IsCell content) (t : List Char) :
    cell? (m.celled content ++ t) = some (content, t) := by
  have hparts : m.celled content ++ t =
      "<div".toList ++ (m.cell ++ '>' :: (content ++ '<' :: ("/div>".toList ++ t))) := by
    simp only [Markup.celled, List.append_assoc, List.cons_append]
    rfl
  have hne : content.isEmpty = false := by
    rcases hcell with rfl | ⟨hne, -⟩
    · rfl
    · exact List.isEmpty_eq_false_iff.2 hne
  have hend : dropFront? "</div>".toList ('<' :: ("/div>".toList ++ t)) = some t :=
    dropFront?_append "</div>".toList t
  rw [hparts]
  unfold cell?
  simp only [bind, Option.bind, dropFront?_append, behind?_append m.cell_plain]
  rcases content_cases hcell ("/div>".toList ++ t) with ⟨rfl, hdrop⟩ | ⟨hdrop, htake, hbehind⟩
  · simp only [hdrop, hne, hend, Bool.false_eq_true, if_false]
    rfl
  · simp only [hdrop, htake, hbehind, hne, hend, Bool.false_eq_true, if_false]
    rfl

/-- A row is read as it is shown. -/
theorem row?_shown (hr : r.Presentable) (t : List Char) : row? (m.shown r ++ t) = some (r, t) := by
  have hparts : m.shown r ++ t =
      "href=\"".toList ++ (m.address ++ "target=".toList ++ r.name ++ '"' :: (m.link ++
        '>' :: (r.name ++ '<' :: ("/a></div>".toList ++
          (m.celled r.input ++ (m.celled r.output ++ t)))))) := by
    simp only [Markup.shown, Markup.linked, linkMark, List.append_assoc, List.cons_append]
    rfl
  have haddress : '"' ∉ m.address ++ "target=".toList ++ r.name := by
    intro hmem
    simp only [List.mem_append] at hmem
    rcases hmem with (hmem | hmem) | hmem
    · exact m.address_plain hmem
    · exact absurd hmem (by decide)
    · exact (hr.plain _ hmem).1 rfl
  have hname : '<' ∉ r.name := fun hmem => (hr.plain _ hmem).2.1 rfl
  have hend (t : List Char) :
      dropFront? "</a></div>".toList ('<' :: ("/a></div>".toList ++ t)) = some t :=
    dropFront?_append "</a></div>".toList t
  rw [hparts]
  unfold row?
  simp only [bind, Option.bind, dropFront?_append, splitFirst_append haddress,
    namesTarget_append m.address hr.named, behind?_append m.link_plain,
    runUpTo?_append hr.named hname, hend, cell?_celled hr.input, cell?_celled hr.output]
  rfl

theorem row?_eq_none {t : List Char} (h : ¬ linkMark <+: t) : row? t = none := by
  rw [row?, ← linkMark, dropFront?_eq_none h]
  rfl

/-! The search for rows. -/

/-- A text in which no link begins. -/
def Linkless (t : List Char) : Prop :=
  ¬ linkMark <:+: t

/-- What lies between rows, with the tags that begin the next one, is passed over. -/
theorem rowsFrom_skip {gap t : List Char}
    (h : ∀ s, s ≠ [] → s <:+ gap → ¬ linkMark <+: s ++ t) (fuel : ℕ) :
    rowsFrom (gap.length + fuel) (gap ++ t) = rowsFrom fuel t := by
  induction gap with
  | nil => rw [List.length_nil, Nat.zero_add, List.nil_append]
  | cons c gap ih =>
    have hnone := row?_eq_none (h (c :: gap) (List.cons_ne_nil c gap) List.suffix_rfl)
    have hlength : (c :: gap).length + fuel = gap.length + fuel + 1 := by
      rw [List.length_cons]
      omega
    rw [List.cons_append] at hnone
    rw [hlength, List.cons_append, rowsFrom, hnone]
    exact ih fun s hs hsuffix => h s hs (hsuffix.trans (List.suffix_cons c gap))

theorem rowsFrom_row {t behind : List Char} (h : row? t = some (r, behind)) (fuel : ℕ) :
    rowsFrom (fuel + 1) t = r :: rowsFrom fuel behind := by
  cases t with
  | nil => exact nomatch h
  | cons c t => rw [rowsFrom, h]

/-- No row begins in a text without links. -/
theorem linkless_suffix {gap s : List Char} (hgap : Linkless gap) (hs : s <:+ gap) :
    ¬ linkMark <+: s :=
  fun hfirst => hgap (hfirst.isInfix.trans hs.isInfix)

/-- No row begins in the tags in front of a link either. The blank at their end belongs to no link,
and so does the bracket that they begin with. -/
theorem tags_suffix {gap s : List Char} (hgap : Linkless gap) (hne : s ≠ [])
    (hs : s <:+ gap ++ '<' :: m.tags ++ [' ']) (t : List Char) : ¬ linkMark <+: s ++ t := by
  intro hfirst
  rcases List.suffix_concat_iff.1 hs with rfl | ⟨front, rfl, hfront⟩
  · exact hne rfl
  · rw [List.append_assoc, List.singleton_append] at hfirst
    have hstart : linkMark <+: front := prefix_of_notMem (by decide) hfirst
    have hrun : linkMark <:+: gap ++ '<' :: m.tags := hstart.isInfix.trans hfront.isInfix
    rcases infix_of_notMem (by decide) hrun with hleft | hright
    · exact hgap hleft
    · exact m.tags_plain hright

theorem page_cons (lead filler : List Char) (entries : List (Row × List Char)) :
    m.page lead ((r, filler) :: entries) =
      (lead ++ '<' :: m.tags ++ [' ']) ++ (m.shown r ++ m.page filler entries) := by
  simp [Markup.page, Markup.rendered]

/-- The rows of a page are found, each of them and no others. -/
theorem rowsFrom_page {entries : List (Row × List Char)}
    (hentries : ∀ entry ∈ entries, entry.1.Presentable ∧ Linkless entry.2) {lead : List Char}
    (hlead : Linkless lead) {fuel : ℕ} (hfuel : (m.page lead entries).length ≤ fuel) :
    rowsFrom fuel (m.page lead entries) = entries.map (·.1) := by
  induction entries generalizing lead fuel with
  | nil =>
    have hpage : m.page lead [] = lead ++ [] := rfl
    rw [hpage] at hfuel ⊢
    rw [List.append_nil] at hfuel
    obtain ⟨more, rfl⟩ := Nat.exists_eq_add_of_le hfuel
    rw [rowsFrom_skip fun s _ hs => by
      rw [List.append_nil]
      exact linkless_suffix hlead hs]
    cases more <;> rfl
  | cons entry entries ih =>
    obtain ⟨r, filler⟩ := entry
    obtain ⟨⟨hr, hfiller⟩, hrest⟩ := List.forall_mem_cons.1 hentries
    have hskip := rowsFrom_skip fun s hne (hs : s <:+ lead ++ '<' :: m.tags ++ [' ']) =>
      tags_suffix hlead hne hs (m.shown r ++ m.page filler entries)
    have hshown : 0 < (m.shown r).length := by
      simp [Markup.shown, Markup.linked, linkMark]
    rw [page_cons] at hfuel ⊢
    generalize lead ++ '<' :: m.tags ++ [' '] = gap at hskip hfuel ⊢
    rw [List.length_append, List.length_append] at hfuel
    obtain ⟨more, rfl⟩ : ∃ more, fuel = gap.length + (more + 1) :=
      ⟨fuel - gap.length - 1, by omega⟩
    rw [hskip, rowsFrom_row (row?_shown hr _), ih hrest hfiller (by dsimp only; omega),
      List.map_cons]

/-! The prices. -/

/-- The price that a cell shows. -/
def amount? (content : List Char) : Option Binary64 :=
  if content = freeMarker then some .zero else numeral? content

/-- What a row offers: both prices, for the model of its name without the blanks around it. -/
def offer? (r : Row) : Option (String × Pricing) :=
  match amount? r.input, amount? r.output with
  | some input, some output => some (.ofList (trim r.name), ⟨input, output⟩)
  | _, _ => none

theorem price?_cell (hcell : IsCell content) : price? content = amount? content := by
  rw [price?, amount?]
  rcases hcell with rfl | ⟨-, hnumeric⟩
  · rw [if_pos rfl, if_pos rfl]
  · rw [binary64?_numeric hnumeric]

/-- Rows are gone through one by one, and each one that offers something is kept. -/
theorem foldl_offers {entries : List Row} (hentries : ∀ r ∈ entries, r.Presentable)
    (prices : Dictionary Pricing) :
    entries.foldl (fun prices row =>
      match price? row.input, price? row.output with
      | some input, some output =>
        Dictionary.assign prices (.ofList (trim row.name)) ⟨input, output⟩
      | _, _ => prices) prices = prices.merge (entries.filterMap offer?) := by
  induction entries generalizing prices with
  | nil => rfl
  | cons r entries ih =>
    obtain ⟨hr, hrest⟩ := List.forall_mem_cons.1 hentries
    rw [List.foldl_cons, ih hrest, List.filterMap_cons, price?_cell hr.input,
      price?_cell hr.output, offer?]
    cases amount? r.input with
    | none => rfl
    | some input => cases amount? r.output <;> rfl

/-- The list of prices recovers the rows of a page. However they are marked up and whatever stands
between them, as long as no link begins there, what is read are the offers of the rows in page
order; a later offer for a model replaces an earlier one in its place. -/
theorem pricesOn_page (m : Markup) {lead : List Char} {entries : List (Row × List Char)}
    (hlead : Linkless lead)
    (hentries : ∀ entry ∈ entries, entry.1.Presentable ∧ Linkless entry.2) :
    pricesOn (m.page lead entries) =
      Dictionary.ofPairs ((entries.map (·.1)).filterMap offer?) := by
  have hrows : ∀ r ∈ entries.map (·.1), r.Presentable := by
    intro r hr
    obtain ⟨entry, hentry, rfl⟩ := List.mem_map.1 hr
    exact (hentries entry hentry).1
  rw [pricesOn, rows, rowsFrom_page hentries hlead le_rfl]
  exact foldl_offers hrows []

/-- The markup of the public page. -/
def publicMarkup : Markup where
  tags := "div><a".toList
  address := "/models?".toList
  link := " class=\"link\"".toList
  cell := " class=\"cell\"".toList
  tags_plain := by decide +kernel
  address_plain := by decide
  link_plain := by decide
  cell_plain := by decide

example : publicMarkup.rendered ⟨"m".toList, "1".toList, freeMarker⟩ =
    ("<div><a href=\"/models?target=m\" class=\"link\">m</a></div>" ++
      "<div class=\"cell\">1</div><div class=\"cell\">免费</div>").toList := by
  rfl

/-- Four rows: one for a free model, one with a price that is no number, one with prices of either
kind, and another one for the first model. -/
def someEntries : List (Row × List Char) :=
  [(⟨" a/b ".toList, freeMarker, freeMarker⟩, []),
   (⟨"c".toList, "1.2.3".toList, "1".toList⟩, "<hr>".toList),
   (⟨"d".toList, ".5".toList, "4.".toList⟩, []),
   (⟨"a/b".toList, "4.13".toList, freeMarker⟩, "</body></html>".toList)]

/-- The second row is left out, and the last one counts in the place of the first. -/
theorem pricesOn_page_public :
    pricesOn (publicMarkup.page "<html><body>".toList someEntries) =
      [("a/b", ⟨.ofDecimal false 413 (-2), .zero⟩),
       ("d", ⟨.ofDecimal false 5 (-1), .ofDecimal false 4 0⟩)] := by
  have hnumeral {t : List Char} (hne : t ≠ [])
      (ht : t.all (fun c => c == '.' || isAsciiDigit c) = true) : IsCell t := by
    refine .inr ⟨hne, fun c hc => ?_⟩
    simpa using List.all_eq_true.1 ht c hc
  have hplain {t : List Char} (ht : t.all (fun c => c != '"' && c != '<' && c != '>') = true) :
      ∀ c ∈ t, c ≠ '"' ∧ c ≠ '<' ∧ c ≠ '>' := by
    simpa [and_assoc] using ht
  have hlinkless : Linkless "<html><body>".toList := by
    rw [Linkless]
    decide +kernel
  have hentries : ∀ entry ∈ someEntries, entry.1.Presentable ∧ Linkless entry.2 := by
    simp only [someEntries, List.forall_mem_cons]
    refine ⟨⟨⟨by decide, hplain rfl, .inl rfl, .inl rfl⟩, ?_⟩,
      ⟨⟨by decide, hplain rfl, hnumeral (by decide) rfl, hnumeral (by decide) rfl⟩, ?_⟩,
      ⟨⟨by decide, hplain rfl, hnumeral (by decide) rfl, hnumeral (by decide) rfl⟩, ?_⟩,
      ⟨⟨by decide, hplain rfl, hnumeral (by decide) rfl, .inl rfl⟩, ?_⟩, by simp⟩
    all_goals
      rw [Linkless]
      decide +kernel
  rw [pricesOn_page publicMarkup hlinkless hentries]
  rfl

end SiliconFlow

end FormulaOcr
