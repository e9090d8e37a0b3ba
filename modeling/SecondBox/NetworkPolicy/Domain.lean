/-
  Exact DNS names, as `networkpolicycontract.NormalizeLogicalGatewayName`
  accepts them.

  Only characters that some character lower-cases to an ASCII letter are
  lower-cased here; every other letter stays outside ASCII under `ToLower` and
  is refused either way.
-/
import Mathlib.Data.List.DropRight
import Mathlib.Data.String.Basic

namespace SecondBox.NetworkPolicy

/-- The errors, with the name as given. -/
inductive NameError
  | length
  | notExact (raw : String)
  | address (raw : String)
  | label (raw : String)
  | notASCII (raw : String)
deriving DecidableEq

/-- `unicode.IsSpace`. -/
def isSpace (c : Char) : Bool :=
  (9 ≤ c.toNat && c.toNat ≤ 13) || c.toNat ∈ [0x20, 0x85, 0xa0, 0x1680, 0x2028, 0x2029, 0x202f,
    0x205f, 0x3000] || (0x2000 ≤ c.toNat && c.toNat ≤ 0x200a)

/-- `unicode.ToLower`.  The Kelvin sign and the dotted capital I are the only
other characters whose lower case is an ASCII letter. -/
def toLower (c : Char) : Char :=
  if 'A' ≤ c ∧ c ≤ 'Z' then Char.ofNat (c.toNat + 32)
  else if c.toNat = 0x212a then 'k'
  else if c.toNat = 0x130 then 'i'
  else c

/-- `strings.TrimSpace`. -/
def trimSpace (l : List Char) : List Char := (l.dropWhile isSpace).rdropWhile isSpace

/-- `strings.TrimSuffix(s, ".")`. -/
def trimDot (l : List Char) : List Char := if l.getLast? = some '.' then l.dropLast else l

/-- `len` of a string. -/
def byteLength (l : List Char) : ℕ := l.foldr (fun c n => c.utf8Size + n) 0

/-- One decimal field of `parseIPv4`: no sign, no leading zero, at most 255. -/
def isOctet (l : List Char) : Bool :=
  l ≠ [] && l.length ≤ 3 && l.all (fun c => '0' ≤ c && c ≤ '9') &&
    (l.length = 1 || l.head? ≠ some '0') && l.foldl (fun n c => 10 * n + (c.toNat - 48)) 0 ≤ 255

/-- Does `netip.ParseAddr` accept a name without a colon? -/
def isIPv4Literal (l : List Char) : Bool :=
  (l.splitOn '.').length = 4 && (l.splitOn '.').all isOctet

/-- A character of a label. -/
def isLabelChar (c : Char) : Bool := ('a' ≤ c && c ≤ 'z') || ('0' ≤ c && c ≤ '9') || c == '-'

/-- What is wrong with a label. -/
def labelError (raw : String) (label : List Char) : Option NameError :=
  if label = [] ∨ 63 < byteLength label ∨ label.head? = some '-' ∨ label.getLast? = some '-' then
    some (.label raw)
  else if label.all isLabelChar then none
  else some (.notASCII raw)

/-- `normalizeLogicalGatewayName`: an exact name in lower case. -/
def normalizeLogicalGatewayName (raw : String) : Except NameError String :=
  let domain := trimDot ((trimSpace raw.toList).map toLower)
  if domain = [] ∨ 253 < byteLength domain then .error .length
  else if domain.any (· ∈ ['*', ':', '/']) then .error (.notExact raw)
  else if isIPv4Literal domain then .error (.address raw)
  else match (domain.splitOn '.').findSome? (labelError raw) with
    | some e => .error e
    | none => .ok (String.ofList domain)

example :
    normalizeLogicalGatewayName "GATEWAY.EXAMPLE." = .ok "gateway.example" := by decide +kernel
example : normalizeLogicalGatewayName "192.0.2.10" = .error (.address "192.0.2.10") := by
    decide +kernel

/-! ## Normal names -/

/-- What is asked of the trimmed, lower-case name. -/
structure Normal (l : List Char) : Prop where
  nonempty : l ≠ []
  length : byteLength l ≤ 253
  exact : ∀ c ∈ l, c ∉ ['*', ':', '/']
  address : isIPv4Literal l = false
  labels : ∀ label ∈ l.splitOn '.', label ≠ [] ∧ byteLength label ≤ 63 ∧ label.head? ≠ some '-' ∧
    label.getLast? ≠ some '-' ∧ ∀ c ∈ label, isLabelChar c = true

theorem labelError_eq_none {raw : String} {label : List Char} : labelError raw label = none ↔
    label ≠ [] ∧ byteLength label ≤ 63 ∧ label.head? ≠ some '-' ∧ label.getLast? ≠ some '-' ∧
      ∀ c ∈ label, isLabelChar c = true := by
  unfold labelError
  split
  next h =>
    refine ⟨fun hnone => (by cases hnone), ?_⟩
    rintro ⟨hne, hlen, hhead, hlast, -⟩
    rcases h with h | h | h | h
    · exact absurd h hne
    · omega
    · exact absurd h hhead
    · exact absurd h hlast
  next h =>
    push Not at h
    simp [h]

theorem normalizeLogicalGatewayName_eq_ok {raw d : String} :
    normalizeLogicalGatewayName raw = .ok d ↔
    Normal (trimDot ((trimSpace raw.toList).map toLower)) ∧
      d = String.ofList (trimDot ((trimSpace raw.toList).map toLower)) := by
  unfold normalizeLogicalGatewayName
  generalize trimDot ((trimSpace raw.toList).map toLower) = l
  constructor
  · intro h
    simp only at h
    split at h
    · cases h
    next hlen =>
    split at h
    · cases h
    next hexact =>
    split at h
    · cases h
    next haddress =>
    split at h
    · cases h
    next hlabels =>
    simp only [not_or, not_lt] at hlen
    refine ⟨⟨hlen.1, hlen.2, by simpa using hexact, by simpa using haddress, ?_⟩, by simpa using h.symm⟩
    intro label hmem
    exact labelError_eq_none.1 (List.findSome?_eq_none_iff.1 hlabels label hmem)
  · rintro ⟨hn, rfl⟩
    have hlabels : (l.splitOn '.').findSome? (labelError raw) = none :=
      List.findSome?_eq_none_iff.2 fun label hmem => labelError_eq_none.2 (hn.labels label hmem)
    have hlen : ¬(l = [] ∨ 253 < byteLength l) := by simpa using ⟨hn.nonempty, hn.length⟩
    have hexact : l.any (· ∈ ['*', ':', '/']) = false := by simpa using hn.exact
    simp only [if_neg hlen, hexact, hn.address, hlabels, Bool.false_eq_true, if_false]

theorem mem_intercalate_singleton {α : Type} {x c : α} :
    ∀ {ls : List (List α)}, c ∈ [x].intercalate ls →
    c = x ∨ ∃ l ∈ ls, c ∈ l
  | [], h => by simp at h
  | [l], h => Or.inr ⟨l, by simp, by simpa using h⟩
  | l :: l' :: ls, h => by
    rw [List.intercalate_cons_cons, List.append_assoc, List.mem_append, List.mem_append] at h
    rcases h with h | h | h
    · exact Or.inr ⟨l, by simp, h⟩
    · exact Or.inl (by simpa using h)
    · rcases mem_intercalate_singleton h with h | ⟨m, hm, hc⟩
      · exact Or.inl h
      · exact Or.inr ⟨m, List.mem_cons_of_mem _ hm, hc⟩

theorem Normal.mem {l : List Char} (h : Normal l) {c : Char} (hc : c ∈ l) :
    c = '.' ∨ isLabelChar c = true := by
  have hjoin : ['.'].intercalate (l.splitOn '.') = l := List.intercalate_splitOn '.'
  rw [← hjoin] at hc
  rcases mem_intercalate_singleton hc with rfl | ⟨label, hl, hc⟩
  · exact Or.inl rfl
  · exact Or.inr ((h.labels label hl).2.2.2.2 c hc)

theorem Normal.trimDot_eq {l : List Char} (h : Normal l) : trimDot l = l := by
  rw [trimDot, if_neg]
  intro hlast
  obtain ⟨ys, rfl⟩ := List.getLast?_eq_some_iff.1 hlast
  have hsplit : (ys ++ ['.']).splitOn '.' = ys.splitOn '.' ++ [[]] :=
    List.splitOnP_append_cons ys [] (by decide)
  exact (h.labels [] (by rw [hsplit]; simp)).1 rfl

theorem plain_char {c : Char} (h : c = '.' ∨ isLabelChar c = true) :
    isSpace c = false ∧ toLower c = c := by
  have hrange : c.toNat = 46 ∨ (97 ≤ c.toNat ∧ c.toNat ≤ 122) ∨ (48 ≤ c.toNat ∧ c.toNat ≤ 57) ∨
      c.toNat = 45 := by
    rcases h with rfl | h
    · exact Or.inl (by decide)
    · simp only [isLabelChar, Bool.or_eq_true, Bool.and_eq_true, decide_eq_true_eq, beq_iff_eq,
        or_assoc] at h
      rcases h with h | h | rfl
      · exact Or.inr (Or.inl h)
      · exact Or.inr (Or.inr (Or.inl h))
      · exact Or.inr (Or.inr (Or.inr (by decide)))
  constructor
  · simp [isSpace]; omega
  · have hup : ¬('A' ≤ c ∧ c ≤ 'Z') := by
      rintro ⟨h₁, h₂⟩
      have h₁ : 65 ≤ c.toNat := h₁
      have h₂ : c.toNat ≤ 90 := h₂
      omega
    rw [toLower, if_neg hup, if_neg (by omega), if_neg (by omega)]

theorem Normal.trimSpace_eq {l : List Char} (h : Normal l) : trimSpace l = l := by
  have hspace : ∀ c ∈ l, isSpace c = false := fun c hc => (plain_char (h.mem hc)).1
  have hdrop : l.dropWhile isSpace = l :=
    List.dropWhile_eq_self_iff.2 fun hl => by simp [hspace _ (List.getElem_mem hl)]
  rw [trimSpace, hdrop, List.rdropWhile_eq_self_iff]
  intro hl
  simp [hspace _ (List.getLast_mem hl)]

theorem normalizeLogicalGatewayName_idem {raw d : String}
    (h : normalizeLogicalGatewayName raw = .ok d) :
    normalizeLogicalGatewayName d = .ok d := by
  obtain ⟨hn, rfl⟩ := normalizeLogicalGatewayName_eq_ok.1 h
  generalize trimDot ((trimSpace raw.toList).map toLower) = l at hn
  have hlower : l.map toLower = l :=
    (List.map_congr_left fun c hc => (plain_char (hn.mem hc)).2).trans (List.map_id l)
  have hself : trimDot ((trimSpace (String.ofList l).toList).map toLower) = l := by
    rw [String.toList_ofList, hn.trimSpace_eq, hlower, hn.trimDot_eq]
  rw [normalizeLogicalGatewayName_eq_ok, hself]
  exact ⟨hn, rfl⟩

end SecondBox.NetworkPolicy
