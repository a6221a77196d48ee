import FormulaOcr.Proofs.Recognition.Checks

/-! Opening links. Whether a link leads to the web is told from a cleaned copy of it, while the
browser is handed the link itself. A link whose host part is in order is opened exactly if the copy
begins as a web address; the link then begins as one too, unless control characters stand before its
first colon. A link whose host part is out of order is a crash. -/

namespace FormulaOcr

open FormulaOcr.Action FormulaOcr.Localization FormulaOcr.Recognition

namespace Link

variable {c : Char} {name front rest t : List Char}

/-- The host part of an address: what follows two slashes behind the scheme, up to a delimiter. -/
def hostPart? (t : List Char) : Option (List Char) :=
  (Text.dropFront? "//".toList (splitScheme t).2).map
    (·.takeWhile fun c => c != '/' && c != '?' && c != '#')

/-- What is wrong with the host part of an address, if it has one. -/
def hostFault? (t : List Char) : Option HostFault :=
  (hostPart? t).bind fun host =>
    match checkHost host with
    | .ok _ => none
    | .error f => some f

/-- A text begins with the name of a web scheme, in capital or small letters, and a colon. -/
def BeginsWeb (t : List Char) : Prop :=
  ∃ name rest, t = name ++ ':' :: rest ∧ String.ofList (name.map Char.toLower) ∈ webSchemes

/-- No control characters and spaces stand before the first colon. -/
def Unspoiled (t : List Char) : Prop :=
  ∀ c ∈ t.takeWhile (· != ':'), 0x20 < c.toNat

/-! The names of web schemes. -/

theorem letter_of_toLower (h : Text.isAsciiLetter c.toLower = true) :
    Text.isAsciiLetter c = true := by
  by_cases hupper : c.val ≥ 'A'.val ∧ c.val ≤ 'Z'.val
  · have hlow : 'A'.toNat ≤ c.toNat := hupper.1
    have hhigh : c.toNat ≤ 'Z'.toNat := hupper.2
    rw [Text.isAsciiLetter, decide_eq_true hlow, decide_eq_true hhigh, Bool.and_self, Bool.or_true]
  · have hsame : c.toLower = c := dif_neg hupper
    rwa [hsame] at h

theorem letters_of_web (h : String.ofList (name.map Char.toLower) ∈ webSchemes) :
    ∀ c ∈ name, Text.isAsciiLetter c = true := by
  have hletters : ∀ scheme ∈ webSchemes, ∀ c ∈ scheme.toList, Text.isAsciiLetter c = true := by
    simp [webSchemes, Text.isAsciiLetter]
  intro c hc
  refine letter_of_toLower (hletters _ h _ ?_)
  rw [String.toList_ofList]
  exact List.mem_map_of_mem hc

theorem ne_nil_of_web (h : String.ofList (name.map Char.toLower) ∈ webSchemes) : name ≠ [] := by
  rintro rfl
  exact absurd h (by decide)

theorem toNat_of_letter (h : Text.isAsciiLetter c = true) : 0x40 < c.toNat := by
  simp only [Text.isAsciiLetter, Bool.or_eq_true, Bool.and_eq_true, decide_eq_true_eq] at h
  have hsmall : 'a'.toNat = 97 := rfl
  have hcapital : 'A'.toNat = 65 := rfl
  omega

theorem ne_colon_of_letter (h : Text.isAsciiLetter c = true) : c ≠ ':' := by
  rintro rfl
  exact absurd h (by decide)

theorem takeWhile_web (h : String.ofList (name.map Char.toLower) ∈ webSchemes) (rest : List Char) :
    (name ++ ':' :: rest).takeWhile (· != ':') = name := by
  rw [List.takeWhile_append_of_pos, List.takeWhile_cons_of_neg (by simp), List.append_nil]
  intro c hc
  simpa using ne_colon_of_letter (letters_of_web h c hc)

/-- A text is what stands before its first colon, the colon, and what stands behind. -/
theorem split_at_colon (h : ':' ∈ t) :
    t = t.takeWhile (· != ':') ++ ':' :: (t.dropWhile (· != ':')).tail := by
  have hne : t.dropWhile (· != ':') ≠ [] := by simpa using h
  have hhead : (t.dropWhile (· != ':')).head hne = ':' := by
    simpa using List.head_dropWhile_not (· != ':') hne
  have hrest : ':' :: (t.dropWhile (· != ':')).tail = t.dropWhile (· != ':') := by
    conv_rhs => rw [← List.cons_head_tail hne, hhead]
  rw [hrest, List.takeWhile_append_dropWhile]

/-- An address begins as a web address exactly if its scheme is one of the web. -/
theorem scheme_mem_iff (t : List Char) :
    String.ofList (splitScheme t).1 ∈ webSchemes ↔ BeginsWeb t := by
  have hnone : String.ofList [] ∉ webSchemes := by decide
  unfold splitScheme
  rw [splitFirst_eq]
  constructor
  · intro h
    split_ifs at h with hcolon
    · dsimp only at h
      split_ifs at h with hvalid
      · exact ⟨_, _, split_at_colon hcolon, h⟩
      · exact absurd h hnone
    · exact absurd h hnone
  · rintro ⟨name, rest, rfl, hweb⟩
    have hletters := letters_of_web hweb
    have hvalid : (name.head?.any Text.isAsciiLetter && name.all isSchemeChar) = true := by
      cases name with
      | nil => exact absurd rfl (ne_nil_of_web hweb)
      | cons c name =>
        rw [Bool.and_eq_true, List.all_eq_true]
        refine ⟨hletters c List.mem_cons_self, fun d hd => ?_⟩
        simp [isSchemeChar, Text.isAsciiAlphanumeric, hletters d hd]
    rw [if_pos (by simp)]
    dsimp only
    rw [takeWhile_web hweb, if_pos hvalid]
    exact hweb

/-! The cleaned copy. -/

/-- What stands before a colon is kept as it is if it has no control characters and spaces. -/
theorem cleaned_append (h : ∀ c ∈ front, 0x20 < c.toNat) (rest : List Char) :
    ∃ kept, cleaned (front ++ ':' :: rest) = front ++ ':' :: kept := by
  have hstart : (front ++ ':' :: rest).dropWhile (·.toNat ≤ 0x20) = front ++ ':' :: rest := by
    cases front with
    | nil => exact List.dropWhile_cons_of_neg (by decide)
    | cons c front =>
      have hc := h c List.mem_cons_self
      exact List.dropWhile_cons_of_neg (by simpa using hc)
  have hfront : front.filter (fun c => c != '\t' && c != '\n' && c != '\r') = front := by
    rw [List.filter_eq_self]
    intro c hc
    have hlarge := h c hc
    simp only [Bool.and_eq_true, bne_iff_ne]
    refine ⟨⟨?_, ?_⟩, ?_⟩ <;> rintro rfl <;> exact absurd hlarge (by decide)
  rw [cleaned, hstart, List.filter_append, List.filter_cons_of_pos (by decide), hfront]
  exact ⟨_, rfl⟩

/-- A text begins as a web address exactly if its cleaned copy does, and nothing was taken away
before the first colon. -/
theorem beginsWeb_iff (t : List Char) : BeginsWeb t ↔ BeginsWeb (cleaned t) ∧ Unspoiled t := by
  constructor
  · rintro ⟨name, rest, rfl, hweb⟩
    have hlarge : ∀ c ∈ name, 0x20 < c.toNat := by
      intro c hc
      have hletter := toNat_of_letter (letters_of_web hweb c hc)
      omega
    obtain ⟨kept, hkept⟩ := cleaned_append hlarge rest
    refine ⟨⟨name, kept, hkept, hweb⟩, ?_⟩
    rw [Unspoiled, takeWhile_web hweb]
    exact hlarge
  · rintro ⟨⟨name, rest, hcleaned, hweb⟩, hlarge⟩
    have hcolon : ':' ∈ t := by
      have hmem : ':' ∈ cleaned t := by
        rw [hcleaned]
        simp
      exact (List.dropWhile_sublist _).subset (List.mem_of_mem_filter hmem)
    have hparts := split_at_colon hcolon
    obtain ⟨kept, hkept⟩ := cleaned_append hlarge (t.dropWhile (· != ':')).tail
    rw [← hparts, hcleaned] at hkept
    have hname : name = t.takeWhile (· != ':') := by
      have hfree : ∀ c ∈ t.takeWhile (· != ':'), (c != ':') = true :=
        fun c => List.mem_takeWhile_imp
      have htake := congrArg (List.takeWhile (· != ':')) hkept
      rw [takeWhile_web hweb, List.takeWhile_append_of_pos hfree,
        List.takeWhile_cons_of_neg (by simp), List.append_nil] at htake
      exact htake
    exact ⟨name, _, hname ▸ hparts, hweb⟩

/-- The scheme is told of the cleaned copy, if its host part is in order. -/
theorem scheme_eq (url : String) :
    scheme url =
      match hostFault? (cleaned url.toList) with
      | some f => .error f
      | none => .ok (.ofList (splitScheme (cleaned url.toList)).1) := by
  unfold scheme hostFault? hostPart?
  dsimp only
  cases Text.dropFront? "//".toList (splitScheme (cleaned url.toList)).2 with
  | none => rfl
  | some rest =>
    dsimp only [Option.map, Option.bind]
    cases checkHost (rest.takeWhile fun c => c != '/' && c != '?' && c != '#') with
    | ok _ => rfl
    | error f => rfl

/-- The copy of a link that its scheme and its host part are told from. -/
def seen (url : String) : List Char :=
  cleaned (Text.trimmed url).toList

end Link

open FormulaOcr.Link

/-- What opening a link comes to, and the world after it. -/
def World.opening (w : World) (url : String) : Except Fault Bool × World :=
  exec (Command.runOpenLink (.str url)) w

section

variable {url : String}

/-- A link whose host part is out of order is a crash. -/
theorem opening_fault {f : HostFault} (h : hostFault? (seen url) = some f) (w : World) :
    w.opening url = (.error (.crash (.host f)), w) := by
  unfold World.opening Command.runOpenLink
  rw [strip_str, ofCrash, pure_bind, scheme_eq, ← seen, h]
  rfl

/-- A link whose host part is in order is opened if its copy begins as a web address, and complained
of otherwise. -/
theorem opening_eq (h : hostFault? (seen url) = none) (w : World) :
    w.opening url =
      if String.ofList (splitScheme (seen url)).1 ∈ webSchemes then
        (.ok w.browser, { w with opened := w.opened ++ [Text.trimmed url] })
      else exec (complain (.invalidUrl (Text.trimmed url))) w := by
  unfold World.opening Command.runOpenLink
  rw [strip_str, ofCrash, pure_bind, scheme_eq, ← seen, h]
  dsimp only [Except.mapError, ofCrash]
  rw [pure_bind]
  simp only [List.contains_iff_mem]
  split_ifs with hweb
  · rfl
  · rfl

theorem opening_web (h : hostFault? (seen url) = none) (hweb : BeginsWeb (seen url)) (w : World) :
    w.opening url = (.ok w.browser, { w with opened := w.opened ++ [Text.trimmed url] }) := by
  rw [opening_eq h, if_pos ((scheme_mem_iff _).2 hweb)]

theorem opening_other (h : hostFault? (seen url) = none) (hweb : ¬ BeginsWeb (seen url))
    (w : World) :
    ComesTo (w.opening url).1 (.error (.complaint (.invalidUrl (Text.trimmed url)))) w ∧
      ∃ kept, (w.opening url).2 = { w with translators := kept } := by
  rw [opening_eq h, if_neg (mt (scheme_mem_iff _).1 hweb)]
  exact ⟨comesTo_complain _ w, exec_complain_snd _ w⟩

end

/-- The browser opens the link once, and the link begins as a web address; or the link is complained
of, and the browser opens nothing. -/
def World.Confines (w : World) (url : String) : Prop :=
  (w.opening url = (.ok w.browser, { w with opened := w.opened ++ [Text.trimmed url] }) ∧
    BeginsWeb (Text.trimmed url).toList) ∨
  (Complained (w.opening url).1 (.invalidUrl (Text.trimmed url)) ∧
    (w.opening url).2.opened = w.opened)

/-- Links are confined to the web, but for two kinds. One whose host part is out of order is a
crash, and one with control characters before its first colon is opened though it does not begin as
a web address. -/
theorem opening_confined (url : String) (w : World) :
    (w.Voices (.invalidUrl (Text.trimmed url)) →
      (w.Confines url ↔ hostFault? (seen url) = none ∧
        (BeginsWeb (seen url) → Unspoiled (Text.trimmed url).toList))) ∧
    (∀ f, hostFault? (seen url) = some f → w.opening url = (.error (.crash (.host f)), w)) ∧
    (hostFault? (seen url) = none → BeginsWeb (seen url) →
      w.opening url = (.ok w.browser, { w with opened := w.opened ++ [Text.trimmed url] })) ∧
    (hostFault? (seen url) = none → ¬ BeginsWeb (seen url) →
      ComesTo (w.opening url).1 (.error (.complaint (.invalidUrl (Text.trimmed url)))) w ∧
        ∃ kept, (w.opening url).2 = { w with translators := kept }) := by
  refine ⟨fun hvoices => ?_, fun f hf => opening_fault hf w, fun h hweb => opening_web h hweb w,
    fun h hweb => opening_other h hweb w⟩
  constructor
  · intro hconfined
    cases hfault : hostFault? (seen url) with
    | some f =>
      have hcrash := opening_fault hfault w
      rcases hconfined with ⟨hopened, -⟩ | ⟨⟨message, hcomplained⟩, -⟩
      · rw [hcrash] at hopened
        cases congrArg Prod.fst hopened
      · rw [hcrash] at hcomplained
        cases hcomplained
    | none =>
      refine ⟨rfl, fun hweb => ?_⟩
      rcases hconfined with ⟨-, hbegins⟩ | ⟨⟨message, hcomplained⟩, -⟩
      · exact ((beginsWeb_iff _).1 hbegins).2
      · rw [opening_web hfault hweb] at hcomplained
        cases hcomplained
  · rintro ⟨hfault, hplain⟩
    by_cases hweb : BeginsWeb (seen url)
    · exact .inl ⟨opening_web hfault hweb w, (beginsWeb_iff _).2 ⟨hweb, hplain hweb⟩⟩
    · obtain ⟨hended, kept, hkept⟩ := opening_other hfault hweb w
      exact .inr ⟨(hended.complained _).2 ⟨rfl, hvoices⟩, by rw [hkept]⟩

/-- A bracket that is not closed is a crash; a link behind a control character is opened; and a file
is complained of. -/
theorem opening_confined_answering :
    answering.opening "http://[" = (.error (.crash (.host .misplacedBracket)), answering) ∧
      (answering.opening "\x01http://x").2.opened = ["\x01http://x"] ∧
      ¬ answering.Confines "\x01http://x" ∧ answering.Confines "file:///etc/passwd" := by
  have hvoices (url : String) : answering.Voices (.invalidUrl (Text.trimmed url)) := by
    have hknown : (Complaint.invalidUrl (Text.trimmed url)).Known :=
      Complaint.known_one (by decide)
    exact voices_of_complete complete_inEnglish translator_answering hknown.listed
  obtain ⟨-, hcrash, -⟩ := opening_confined "http://[" answering
  obtain ⟨hconfined, -, hopens, -⟩ := opening_confined "\x01http://x" answering
  have hfault : hostFault? (seen "\x01http://x") = none := by decide +kernel
  have hweb : BeginsWeb (seen "\x01http://x") :=
    ⟨"http".toList, "//x".toList, by decide +kernel, by decide +kernel⟩
  refine ⟨hcrash _ (by decide +kernel), ?_, ?_, ?_⟩
  · rw [hopens hfault hweb]
    decide +kernel
  · intro h
    have hplain := ((hconfined (hvoices _)).1 h).2 hweb
    exact absurd (hplain '\x01' (by decide +kernel)) (by decide)
  · obtain ⟨hconfined, -⟩ := opening_confined "file:///etc/passwd" answering
    refine (hconfined (hvoices _)).2 ⟨by decide +kernel, fun h => ?_⟩
    exact absurd ((scheme_mem_iff _).2 h) (by decide +kernel)

end FormulaOcr
