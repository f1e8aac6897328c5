import Syfrah.Lib.Ipv4
import Syfrah.Lib.Text

/-!
# The dotted text of addresses and networks

What the printer writes, the reader reads back: a number is read up to the first character that is
not a digit, and the separators are no digits.
-/

namespace Syfrah

namespace Ipv4Parser

theorem readNumber_append {maxDigits upto n : ℕ} {ds rest : List Char} {r count : ℕ}
    (h : readNumber maxDigits upto ds r count = some (n, []))
    (hrest : ∀ c ∈ rest.head?, digit c = none) :
    readNumber maxDigits upto (ds ++ rest) r count = some (n, rest) := by
  induction ds generalizing r count with
  | nil =>
      unfold readNumber at h
      split at h
      · cases h
      · rename_i hcount
        cases h
        cases rest with
        | nil => simp [readNumber, hcount]
        | cons c cs => simp [readNumber, hrest c rfl, hcount]
  | cons c cs ih =>
      unfold readNumber at h
      rw [List.cons_append, readNumber]
      cases hdigit : digit c with
      | none =>
          rw [hdigit] at h
          dsimp only at h
          split at h <;> cases h
      | some d =>
          rw [hdigit] at h
          dsimp only at h ⊢
          split at h
          · cases h
          · rename_i hbounds
            rw [if_neg hbounds]
            exact ih h

theorem readNumber_octet : ∀ n : Fin 256,
    readNumber 3 256 (Nat.toDigits 10 n.val) 0 0 = some (n.val, []) := by
  decide +kernel

theorem readNumber_prefixLen : ∀ p : Fin 33,
    readNumber 2 33 (Nat.toDigits 10 p.val) 0 0 = some (p.val, []) := by
  decide +kernel

theorem readOctet_append (n : Fin 256) {rest : List Char}
    (hrest : ∀ c ∈ rest.head?, digit c = none) :
    readOctet (Nat.toDigits 10 n.val ++ rest) = some (n, rest) := by
  simp [readOctet, readNumber_append (readNumber_octet n) hrest]

theorem digit_dot : digit '.' = none := by decide

theorem digit_slash : digit '/' = none := by decide

theorem readAddr_append (ip : Ipv4Addr) {rest : List Char}
    (hrest : ∀ c ∈ rest.head?, digit c = none) :
    readAddr (ip.display.toList ++ rest) =
      some (.ofOctets (ip.octet 0) (ip.octet 1) (ip.octet 2) (ip.octet 3), rest) := by
  have hdot : ∀ cs : List Char, ∀ c ∈ ('.' :: cs).head?, digit c = none := by
    simp [digit_dot]
  simp [readAddr, Ipv4Addr.display, readOctet_append _ (hdot _), readOctet_append _ hrest,
    readGivenChar]

end Ipv4Parser

namespace Ipv4Addr

theorem ofOctets_octet (ip : Ipv4Addr) :
    ofOctets (ip.octet 0) (ip.octet 1) (ip.octet 2) (ip.octet 3) = ip := by
  apply Fin.ext
  simp only [ofOctets, octet]
  omega

theorem parse_display (ip : Ipv4Addr) : parse ip.display = some ip := by
  have hread : Ipv4Parser.readAddr ip.display.toList = some (ip, []) := by
    simpa [ofOctets_octet] using @Ipv4Parser.readAddr_append ip [] nofun
  simp [parse, hread]

theorem display_injective : Function.Injective display := by
  intro ip ip' h
  exact Option.some.inj ((parse_display ip).symm.trans (h ▸ parse_display ip'))

theorem slash_not_mem_toDigits : ∀ n : Fin 256, '/' ∉ Nat.toDigits 10 n.val := by
  decide +kernel

theorem slash_not_mem_display (ip : Ipv4Addr) : '/' ∉ ip.display.toList := by
  simp [display, slash_not_mem_toDigits]

theorem display_of_parse {s : String} {ip : Ipv4Addr} (h : parse s = some ip) : ip.display = s := by
  unfold parse at h
  cases hread : Ipv4Parser.readAddr s.toList with
  | none => simp [hread] at h
  | some p =>
      obtain ⟨ip', rest⟩ := p
      simp only [hread, Option.bind_eq_bind, Option.bind_some] at h
      split at h
      · rename_i hcanonical
        cases h
        simpa using (Bool.and_eq_true_iff.mp hcanonical).2
      · cases h

end Ipv4Addr

theorem Ipv4Net.parse_display (n : Ipv4Net) : Ipv4Net.parse n.display = some n := by
  have hslash : ∀ cs : List Char, ∀ c ∈ ('/' :: cs).head?, Ipv4Parser.digit c = none := by
    simp [Ipv4Parser.digit_slash]
  simp [Ipv4Net.parse, Ipv4Net.display, Ipv4Parser.readNet, Ipv4Parser.readAddr_append _ (hslash _),
    Ipv4Addr.ofOctets_octet, Ipv4Parser.readGivenChar, Ipv4Parser.readNumber_prefixLen]

end Syfrah
