import DebugLabels.Proofs.ConversionErrors
import DebugLabels.Proofs.WrittenNumber

/-!
# The format of a label file's lines

    <tag>:<address>[-<last address>]:<name>[:<comment>]

`Label.InFormat` says what that means: the tag is that of a region, the addresses are lowercase
hexadecimal numerals without sign and without leading zeros (`Numeral.IsPlain`), and the last
address, if there is one, is the larger of the two.  A written number that is not negative is such a
numeral (`isPlain_toDigits`).

An address that is read from a file may have a sign, and only a label in the ROM window is held back
if its value is negative.  So the main statement, `lines_listingOfText`, says of each line
of a listing that it is in the format exactly if the address of its symbol is not negative; the tag
is right either way.
-/

namespace DebugLabels
namespace Numeral

/-- The digits of a hexadecimal numeral in lowercase. -/
def hexDigits : List Char := "0123456789abcdef".toList

/-- Lowercase hexadecimal digits, at least one and none of them a superfluous zero, that stand for a
number. -/
structure IsPlain (cs : List Char) (n : Nat) : Prop where
  ne_nil : cs ≠ []
  digits : ∀ c ∈ cs, c ∈ hexDigits
  leading : cs.head? = some '0' → cs = ['0']
  value : magnitude? .hexadecimal cs = some n

/-- Only zero is written with a zero in front. -/
theorem eq_zero_of_head?_toDigits {n : Nat} (h : (Nat.toDigits 16 n).head? = some '0') : n = 0 := by
  induction n using Nat.strongRecOn with
  | ind n ih =>
    by_cases hn : n < 16
    · rw [Nat.toDigits_of_lt_base hn, List.head?_cons, Option.some.injEq] at h
      have hzero : ∀ d : Fin 16, Nat.digitChar d = '0' → d.val = 0 := by decide
      exact hzero ⟨n, hn⟩ h
    · have hle : 16 ≤ n := Nat.le_of_not_lt hn
      rw [Nat.toDigits_of_base_le (by decide) hle, List.head?_append_of_ne_nil _
        Nat.toDigits_ne_nil] at h
      have hdiv := ih (n / 16) (Nat.div_lt_self (by omega) (by decide)) h
      omega

/-- **A written number is a plain numeral.** -/
theorem isPlain_toDigits (n : Nat) : IsPlain (Nat.toDigits 16 n) n where
  ne_nil := Nat.toDigits_ne_nil
  digits := fun c hc => by
    have hc : c ∈ Nat.toDigits Radix.hexadecimal.base n := hc
    exact of_mem_toDigits (P := fun c => c ∈ hexDigits) (by decide) hc
  leading := fun h => by
    rw [eq_zero_of_head?_toDigits h]
    rfl
  value := magnitude?_toDigits fun h => absurd h (by decide)

/-- A number that is not negative is written without a sign. -/
theorem hex_natCast (n : Nat) : hex n = String.ofList (Nat.toDigits 16 n) := by
  rw [hex, write, sign, if_neg (by omega), List.nil_append, Int.natAbs_natCast]
  rfl

/-- A negative number is written with a sign. -/
theorem toList_hex_of_neg {n : Int} (h : n < 0) :
    (hex n).toList = '-' :: Nat.toDigits 16 n.natAbs := by
  rw [hex, write, sign, if_pos h, String.toList_ofList, List.singleton_append]
  rfl

end Numeral

namespace Label

open Numeral

/-- The tags of the regions, under settings with a mode of the expansion RAM. -/
def tags (ram : ExpansionRam) : List String := ["P", "R", ram.tag, "G"]

/-- The line is in the format of a label file, with a name and with a comment if there is one. -/
def InFormat (ram : ExpansionRam) (name : String) (comment : Option String) (line : String) :
    Prop :=
  ∃ tag ∈ tags ram, ∃ first n, IsPlain first n ∧
    ∃ ending, (ending = "" ∨
        ∃ last m, IsPlain last m ∧ n < m ∧ ending = "-" ++ String.ofList last) ∧
      line = tag ++ ":" ++ String.ofList first ++ ending ++ ":" ++ name ++
        (match comment with | some comment => ":" ++ comment | none => "")

/-- A tag is one letter. -/
theorem exists_toList_of_mem_tags {ram : ExpansionRam} {tag : String} (h : tag ∈ tags ram) :
    ∃ c, tag.toList = [c] := by
  simp only [tags, List.mem_cons, List.not_mem_nil, or_false] at h
  rcases h with rfl | rfl | rfl | rfl
  · exact ⟨'P', rfl⟩
  · exact ⟨'R', rfl⟩
  · cases ram with
    | work => exact ⟨'W', rfl⟩
    | save => exact ⟨'S', rfl⟩
  · exact ⟨'G', rfl⟩

/-- After the tag and the colon comes a digit. -/
theorem InFormat.exists_digit {ram : ExpansionRam} {name : String} {comment : Option String}
    {line : String} (h : InFormat ram name comment line) :
    ∃ c ∈ hexDigits, line.toList[2]? = some c := by
  obtain ⟨tag, htag, first, n, hfirst, ending, -, rfl⟩ := h
  obtain ⟨letter, hletter⟩ := exists_toList_of_mem_tags htag
  obtain ⟨c, cs, rfl⟩ := List.exists_cons_of_ne_nil hfirst.ne_nil
  refine ⟨c, hfirst.digits c (by simp), ?_⟩
  simp [String.toList_append, hletter]

end Label

namespace Store

open Label Numeral

variable {store : Store} {settings : Settings} {symbol : Symbol}

theorem tagAt_mem_tags (ram : ExpansionRam) (address : Int) : tagAt ram address ∈ tags ram := by
  unfold tagAt tags
  split
  · simp
  · split
    · simp
    · split <;> simp

/-- A symbol at an address that is not negative is listed under a value that is not negative. -/
theorem IsListedUnder.nonneg {address value : Int} (h : store.IsListedUnder settings symbol address value)
    (haddress : 0 ≤ address) : 0 ≤ value := by
  unfold IsListedUnder at h
  split at h
  · obtain ⟨_, _, _, _, _, _, _, hvalue⟩ := h
    exact hvalue
  · rwa [h]

/-- A symbol at a negative address is listed under it. -/
theorem IsListedUnder.eq_of_neg {address value : Int}
    (h : store.IsListedUnder settings symbol address value) (haddress : address < 0) :
    value = address := by
  rwa [IsListedUnder, if_neg (by omega)] at h

/-- A last address is larger than the value. -/
theorem EndsAt.lt {value last : Int} (h : EndsAt settings symbol value (some last)) :
    value < last := by
  unfold EndsAt at h
  split at h
  · rcases h with ⟨-, h⟩ | ⟨size, -, h⟩
    · exact absurd h (Option.some_ne_none last)
    · split at h
      · rw [Option.some.injEq] at h
        omega
      · exact absurd h (Option.some_ne_none last)
  · exact absurd h (Option.some_ne_none last)

/-- **The line of a symbol is in the format exactly if its address is not negative.** -/
theorem HasLine.inFormat_iff {line : String} (h : store.HasLine settings symbol line)
    {address : Int} (haddress : symbol.Reads .hexadecimal "val" address) :
    InFormat settings.ram ((symbol.get? "name").getD "") (symbol.get? "comment") line ↔
      0 ≤ address := by
  obtain ⟨address', value, last, haddress', hvalue, hlast, rfl⟩ := h
  obtain rfl := Entry.eq_of_reads haddress haddress'
  constructor
  · intro hformat
    by_contra hneg
    have hneg : address < 0 := by omega
    obtain ⟨c, hc, hthird⟩ := hformat.exists_digit
    obtain ⟨letter, hletter⟩ := exists_toList_of_mem_tags (tagAt_mem_tags settings.ram address)
    obtain rfl := hvalue.eq_of_neg hneg
    simp only [String.toList_append, hletter, toList_hex_of_neg hneg] at hthird
    obtain rfl : '-' = c := by simpa using hthird
    exact absurd hc (by decide)
  · intro hnonneg
    obtain ⟨n, rfl⟩ := Int.eq_ofNat_of_zero_le (hvalue.nonneg hnonneg)
    have hfirst := isPlain_toDigits n
    cases last with
    | none =>
      refine ⟨_, tagAt_mem_tags _ address, _, n, hfirst, "", Or.inl rfl, ?_⟩
      cases symbol.get? "comment" <;> simp only [hex_natCast]
    | some last =>
      have hlt := hlast.lt
      obtain ⟨m, rfl⟩ := Int.eq_ofNat_of_zero_le (by omega : 0 ≤ last)
      refine ⟨_, tagAt_mem_tags _ address, _, n, hfirst, "-" ++ hex m,
        Or.inr ⟨_, m, isPlain_toDigits m, by omega, by rw [hex_natCast]⟩, ?_⟩
      cases symbol.get? "comment" <;> simp only [hex_natCast]

theorem HasLine.exists_address {line : String} (h : store.HasLine settings symbol line) :
    ∃ address, symbol.Reads .hexadecimal "val" address := by
  obtain ⟨address, _, _, haddress, -⟩ := h
  exact ⟨address, haddress⟩

/-- Every line starts with the tag of a region. -/
theorem HasLine.exists_tag {line : String} (h : store.HasLine settings symbol line) :
    ∃ tag ∈ tags settings.ram, ∃ rest, line = tag ++ ":" ++ rest := by
  obtain ⟨address, _, _, _, _, _, rfl⟩ := h
  refine ⟨tagAt settings.ram address, tagAt_mem_tags _ _, ?_⟩
  simp only [String.append_assoc]
  exact ⟨_, rfl⟩

/-- **The lines of a listing and their format.**  Whatever the text, each label symbol has a line,
and the line starts with the tag of a region.  It is in the format of a label file exactly if the
address of the symbol is not negative. -/
theorem lines_listingOfText (text file : String) (settings : Settings) {listing : Listing}
    (h : (listingOfText text file settings).outcome = .ok listing) :
    ∃ store, (ofText text file).outcome = .ok store ∧
      List.Forall₂ (fun symbol line =>
          (∃ tag ∈ tags settings.ram, ∃ rest, line = tag ++ ":" ++ rest) ∧
          ∃ address, symbol.Reads .hexadecimal "val" address ∧
            (InFormat settings.ram ((symbol.get? "name").getD "") (symbol.get? "comment") line ↔
              0 ≤ address))
        (store.symbols.filter Symbol.isLabel) listing.lines := by
  obtain ⟨store, hstore, hlisting⟩ := Logged.outcome_bind_eq_ok_iff.1 h
  have hlabels := outcome_labelsOf_eq_ok_iff.1 (outcome_listing_eq_ok_iff.1 hlisting).1
  refine ⟨store, hstore, ?_⟩
  rw [Listing.lines, List.forall₂_map_right_iff]
  refine hlabels.imp fun symbol label hlabel => ?_
  have hline := hasLine_of_label hlabel
  obtain ⟨n, hn⟩ := hline.exists_address
  exact ⟨hline.exists_tag, n, hn, hline.inFormat_iff hn⟩

set_option maxRecDepth 2000 in
/-- A label at the address 16 has a line in the format. -/
theorem lines_listingOfText_sixteen :
    ∃ listing, (listingOfText "sym\tid=0,name=a,type=lab,val=10\n" "a" {}).outcome = .ok listing ∧
      listing.lines = ["R:10:a"] ∧ InFormat .work "a" none "R:10:a" := by
  obtain ⟨listing, hlisting, hlines⟩ : ∃ listing,
      (listingOfText "sym\tid=0,name=a,type=lab,val=10\n" "a" {}).outcome = .ok listing ∧
        listing.lines = ["R:10:a"] := ⟨_, rfl, rfl⟩
  obtain ⟨store, hread, hformat⟩ := lines_listingOfText _ _ _ hlisting
  obtain ⟨symbol, hstore, hvalue, hname, hcomment⟩ : ∃ symbol,
      ((ofText "sym\tid=0,name=a,type=lab,val=10\n" "a").outcome.map fun store =>
        store.symbols.filter Symbol.isLabel) = .ok [symbol] ∧
      Symbol.value symbol = .ok 0x10 ∧ symbol.get? "name" = some "a" ∧
      symbol.get? "comment" = none := ⟨_, rfl, rfl, rfl, rfl⟩
  rw [hread, Except.map, Except.ok.injEq] at hstore
  rw [hlines, hstore, List.forall₂_cons] at hformat
  obtain ⟨-, address, haddress, hiff⟩ := hformat.1
  rw [hname, hcomment] at hiff
  obtain rfl := Entry.eq_of_reads haddress (Entry.number_eq_ok_iff_reads.1 hvalue)
  exact ⟨listing, hlisting, hlines, hiff.2 (by decide)⟩

set_option maxRecDepth 2000 in
/-- **A line with a sign.**  A label at the address -16 has a line that is not in the format. -/
theorem listingOfText_negative_address :
    (listingOfText "sym\tid=0,name=a,type=lab,val=-10\n" "a" {}).outcome.map Listing.lines =
        .ok ["R:-10:a"] ∧
      ∀ name comment, ¬ InFormat ExpansionRam.work name comment "R:-10:a" := by
  refine ⟨by rfl, fun name comment hformat => ?_⟩
  obtain ⟨c, hc, hthird⟩ := hformat.exists_digit
  obtain rfl : '-' = c := Option.some.inj hthird
  exact absurd hc (by decide)

end Store
end DebugLabels
