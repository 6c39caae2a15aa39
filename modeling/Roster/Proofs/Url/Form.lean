import Mathlib.Tactic.IntervalCases
import Roster.Proofs.Text.Octets
import Roster.Url.History

/-!
# Forms there and back

Pairs that have been written are read again, whatever their names and values are. A name or value
is written without the signs that separate names, values and pairs, so the parts are found again,
and each part is read as the text that it was written for. A value that is put into the query of an
address is therefore found there again.
-/

namespace Roster.Url

/-! ## Escaped octets -/

/-- A hexadecimal digit has the value that it was written for. -/
theorem hexValue_hexDigit {n : Nat} (h : n < 16) : hexValue (hexDigit n) = some n := by
  interval_cases n <;> rfl

/-- A hexadecimal digit is a letter or a digit. -/
theorem isAlphanum_hexDigit {n : Nat} (h : n < 16) : (hexDigit n).isAlphanum = true := by
  interval_cases n <;> rfl

/-- An escaped octet is that octet. -/
theorem unescape_escapedOctet {n : Nat} (h : n < 0x100) (rest : List Char) :
    unescape (escapedOctet n ++ rest) = n :: unescape rest := by
  have hvalue : n / 16 * 16 + n % 16 = n := by omega
  simp only [escapedOctet, List.cons_append, List.nil_append, unescape,
    hexValue_hexDigit (show n / 16 < 16 by omega), hexValue_hexDigit (show n % 16 < 16 by omega),
    hvalue]

/-- Escaped octets are those octets. -/
theorem unescape_flatMap_escapedOctet {octets : List Nat} (h : ∀ n ∈ octets, n < 0x100)
    (rest : List Char) :
    unescape (octets.flatMap escapedOctet ++ rest) = octets ++ unescape rest := by
  induction octets with
  | nil => rfl
  | cons n octets ih =>
    rw [List.flatMap_cons, List.append_assoc, unescape_escapedOctet (h n (by simp)),
      ih fun m hm => h m (by simp [hm])]
    rfl

/-- A character other than the percent sign stands for its octets. -/
theorem unescape_cons_of_ne {c : Char} (h : c ≠ '%') (rest : List Char) :
    unescape (c :: rest) = Text.octetsOfChar c ++ unescape rest := by
  rw [unescape]
  exact fun _ _ _ hc _ => h hc

namespace Form

/-! ## Names and values -/

/-- A character that stands for itself is none of the signs of a form. -/
theorem ne_of_isPlain {c : Char} (h : isPlain c = true) :
    c ≠ '%' ∧ c ≠ '+' ∧ c ≠ '&' ∧ c ≠ '=' := by
  refine ⟨?_, ?_, ?_, ?_⟩ <;> rintro rfl <;> exact absurd h (by decide)

/-- A name or value is written with characters that stand for themselves, plus signs for spaces and
percent signs before digits. -/
theorem mem_encode {cs : List Char} {c : Char} (h : c ∈ encode cs) :
    isPlain c = true ∨ c = '+' ∨ c = '%' := by
  obtain ⟨a, _, ha⟩ := List.mem_flatMap.mp h
  unfold encodeChar at ha
  split at ha
  · exact .inr (.inl (List.mem_singleton.mp ha))
  · split at ha
    · rename_i hplain
      exact .inl (List.mem_singleton.mp ha ▸ hplain)
    · obtain ⟨n, hn, hc⟩ := List.mem_flatMap.mp ha
      have hbound := Text.lt_of_mem_octetsOfChar hn
      have hdigit {m : Nat} (hm : m < 16) : isPlain (hexDigit m) = true := by
        simp [isPlain, isAlphanum_hexDigit hm]
      simp only [escapedOctet, List.mem_cons, List.not_mem_nil, or_false] at hc
      rcases hc with rfl | rfl | rfl
      · exact .inr (.inr rfl)
      · exact .inl (hdigit (by omega))
      · exact .inl (hdigit (by omega))

/-- The signs between names, values and pairs do not occur in what is written for a name or value. -/
theorem not_mem_encode (cs : List Char) : '&' ∉ encode cs ∧ '=' ∉ encode cs := by
  constructor <;> intro h <;> rcases mem_encode h with hplain | hplus | hpercent
  · exact (ne_of_isPlain hplain).2.2.1 rfl
  · exact absurd hplus (by decide)
  · exact absurd hpercent (by decide)
  · exact (ne_of_isPlain hplain).2.2.2 rfl
  · exact absurd hplus (by decide)
  · exact absurd hpercent (by decide)

/-- How the reader takes a plus sign. -/
def spaced (c : Char) : Char :=
  if c == '+' then ' ' else c

/-- An escaped octet has no plus sign. -/
theorem spaced_of_mem_escapedOctet {n : Nat} (h : n < 0x100) {c : Char}
    (hc : c ∈ escapedOctet n) : spaced c = c := by
  have hdigit {m : Nat} (hm : m < 16) : spaced (hexDigit m) = hexDigit m := by
    have hplain : isPlain (hexDigit m) = true := by simp [isPlain, isAlphanum_hexDigit hm]
    simp [spaced, (ne_of_isPlain hplain).2.1]
  simp only [escapedOctet, List.mem_cons, List.not_mem_nil, or_false] at hc
  rcases hc with rfl | rfl | rfl
  · rfl
  · exact hdigit (by omega)
  · exact hdigit (by omega)

/-- What is written for a character stands for its octets. -/
theorem unescape_encodeChar (c : Char) (rest : List Char) :
    unescape ((encodeChar c).map spaced ++ rest) = Text.octetsOfChar c ++ unescape rest := by
  unfold encodeChar
  split
  · rename_i hspace
    obtain rfl : c = ' ' := by simpa using hspace
    exact unescape_cons_of_ne (by decide) rest
  · split
    · rename_i hplain
      obtain ⟨hpercent, hplus, _⟩ := ne_of_isPlain hplain
      have hsame : [c].map spaced = [c] := by simp [spaced, hplus]
      rw [hsame]
      exact unescape_cons_of_ne hpercent rest
    · have hbound : ∀ n ∈ Text.octetsOfChar c, n < 0x100 := fun n hn =>
        Text.lt_of_mem_octetsOfChar hn
      have hsame : ((Text.octetsOfChar c).flatMap escapedOctet).map spaced =
          (Text.octetsOfChar c).flatMap escapedOctet := by
        refine (List.map_congr_left fun d hd => ?_).trans (List.map_id _)
        obtain ⟨n, hn, hd⟩ := List.mem_flatMap.mp hd
        exact spaced_of_mem_escapedOctet (hbound n hn) hd
      rw [hsame, unescape_flatMap_escapedOctet hbound]

/-- A name or value is read as what it was written for. -/
theorem decode_encode (cs : List Char) : decode (encode cs) = cs := by
  have hoctets : unescape ((encode cs).map spaced) = Text.toOctets cs := by
    induction cs with
    | nil => rfl
    | cons c rest ih =>
      have hencode : encode (c :: rest) = encodeChar c ++ encode rest := rfl
      have hcons : Text.toOctets (c :: rest) = Text.octetsOfChar c ++ Text.toOctets rest := rfl
      rw [hencode, List.map_append, unescape_encodeChar, ih, hcons]
  have hdecode : decode (encode cs) = Text.ofOctets (unescape ((encode cs).map spaced)) := rfl
  rw [hdecode, hoctets, Text.ofOctets_toOctets]

/-! ## Pairs -/

/-- A pair is read as the one that it was written for. -/
theorem decodePair_encodePair (pair : String × String) : decodePair (encodePair pair) = pair := by
  have hname : ∀ c ∈ encode pair.1.toList, (c != '=') = true := by
    intro c hc
    simp only [bne_iff_ne]
    rintro rfl
    exact (not_mem_encode _).2 hc
  have htake : (encodePair pair).takeWhile (· != '=') = encode pair.1.toList := by
    rw [encodePair, List.takeWhile_append_of_pos hname]
    simp
  have hdrop : (encodePair pair).dropWhile (· != '=') = '=' :: encode pair.2.toList := by
    rw [encodePair, List.dropWhile_append_of_pos hname]
    simp
  rw [decodePair, htake, hdrop, List.drop_one, List.tail_cons, decode_encode, decode_encode,
    String.ofList_toList, String.ofList_toList]

/-- A written pair has no sign that separates pairs. -/
theorem not_mem_encodePair (pair : String × String) : '&' ∉ encodePair pair := by
  simp [encodePair, (not_mem_encode _).1]

/-- A written pair is not empty. -/
theorem isEmpty_encodePair (pair : String × String) : (encodePair pair).isEmpty = false := by
  simp [encodePair]

/-- The pieces of what is written are the written pairs. -/
theorem pieces_write {pairs : List (String × String)} (h : pairs ≠ []) :
    Text.pieces '&' (write pairs) = pairs.map encodePair := by
  induction pairs with
  | nil => exact absurd rfl h
  | cons pair rest ih =>
    cases rest with
    | nil => exact Text.pieces_of_not_mem (not_mem_encodePair pair)
    | cons next others =>
      rw [write, Text.pieces_append_cons (not_mem_encodePair pair), ih (by simp)]
      · rfl
      · simp

/-- The pairs that are written are read again. -/
theorem read_write (pairs : List (String × String)) : read (write pairs) = pairs := by
  cases pairs with
  | nil => rfl
  | cons pair rest =>
    have hkept : ((pair :: rest).map encodePair).filter (fun part => !part.isEmpty) =
        (pair :: rest).map encodePair := by
      refine List.filter_eq_self.mpr fun part hpart => ?_
      obtain ⟨p, _, rfl⟩ := List.mem_map.mp hpart
      rw [isEmpty_encodePair]
      rfl
    have hpairs : decodePair ∘ encodePair = id := funext decodePair_encodePair
    rw [read, pieces_write (by simp), hkept, List.map_map, hpairs, List.map_id]

end Form

/-! ## The query of an address -/

/-- The pairs that are put into an address are found there again. -/
theorem pairs_withPairs (u : Url) (pairs : List (String × String)) :
    (u.withPairs pairs).pairs = pairs := by
  simp only [withPairs, Url.pairs, Option.getD_some, String.toList_ofList, Form.read_write]

/-- A value that is put into an address is found there again. -/
theorem parameter?_setParameter (u : Url) (name value : String) :
    (u.setParameter name value).parameter? name = some value := by
  rw [setParameter, parameter?, pairs_withPairs, Form.get?_set]

/-- A value that is pushed into the address bar is found there again. -/
theorem History.parameter?_push (h : History) (name value : String) :
    (h.push name value).parameter? name = some value :=
  h.current.parameter?_setParameter name value

end Roster.Url
