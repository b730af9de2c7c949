import DebugLabels.CommandLine.Run
import DebugLabels.Proofs.Command
import DebugLabels.Proofs.Spellings

/-!
# Settings that are refused

Texts for the settings stand for settings (`Settings.Gives`), or there is something wrong with one
of them (`Settings.Refuses`): the base offset is looked at before the expansion RAM. Which of the
two it is and what comes of it is settled for every text, of any length and in any script
(`ofTexts_eq_ok_iff`, `ofTexts_eq_error_iff`).

A fault is an error of its own, with one exception. A negative base offset is shown in decimal when
it is refused. A decimal numeral that can be read can also be written, but a hexadecimal one has no
limit, so after a dollar sign or a prefix there may be a number that cannot be shown
(`BaseOffset.IsBelowLimit`). The command ends with exit code 2 for a fault and with 3 in the
exception (`ofTexts_givenOrRefused`).
-/

namespace DebugLabels

variable {text : String} {failure : Failure}

/-! ### What is given -/

/-- What a text is read as, or the usual value if no text is given. -/
def orUsual {m : Type → Type} [Pure m] {α : Type} (usual : α) (read : String → m α) :
    Option String → m α
  | some text => read text
  | none => pure usual

/-- A value is read if the text stands for it. -/
theorem orUsual_eq_ok_iff {α β : Type} {usual value : α} {usual' value' : β}
    {read : String → Except Failure α} {read? : String → Option β}
    (hread : ∀ text, read text = .ok value ↔ read? text = some value')
    (husual : usual = value ↔ usual' = value') (given : Option String) :
    orUsual usual read given = .ok value ↔ orUsual usual' read? given = some value' := by
  cases given with
  | some text => exact hread text
  | none =>
    show (Except.ok usual : Except Failure α) = .ok value ↔ some usual' = some value'
    rw [Except.ok.injEq, Option.some.injEq, husual]

/-- Only a text that is given can be refused. -/
theorem orUsual_eq_error_iff {α : Type} {usual : α} {read : String → Except Failure α}
    (given : Option String) :
    orUsual usual read given = .error failure ↔
      ∃ text, given = some text ∧ read text = .error failure := by
  cases given with
  | some text => simp [orUsual]
  | none => simp [orUsual, pure_ne_error]

/-! ### The base offset -/

namespace BaseOffset

/-- The number that is given as the base offset. -/
def given? (base : Option String) : Option Int := orUsual (usual : Int) number? base

/-- The text is a hexadecimal numeral, after what tells it from a decimal one, of a negative number
that cannot be written in decimal. -/
def IsBelowLimit (text : String) : Prop :=
  ∃ lead ∈ Numeral.hexLeads, ∃ digits n,
    Text.trim Text.isBlank text.toList = lead ++ digits ∧
      Numeral.read? .hexadecimal digits = some n ∧ n < 0 ∧ ¬ Numeral.IsWritable n

/-- What stands after a dollar sign or a prefix is read as a hexadecimal numeral. -/
theorem number?_eq_read? {lead digits : List Char} (hlead : lead ∈ Numeral.hexLeads)
    (htext : Text.trim Text.isBlank text.toList = lead ++ digits) :
    number? text = Numeral.read? .hexadecimal digits := by
  rw [number?, htext]
  simp only [Numeral.hexLeads, List.mem_cons, List.not_mem_nil, or_false] at hlead
  rcases hlead with rfl | rfl | rfl <;> rfl

/-- A number that cannot be written is read from a hexadecimal numeral: a decimal one is too short
for it. -/
theorem exists_lead_of_number? {n : Int} (h : number? text = some n)
    (hlimit : ¬ Numeral.IsWritable n) :
    ∃ lead ∈ Numeral.hexLeads, ∃ digits,
      Text.trim Text.isBlank text.toList = lead ++ digits ∧
        Numeral.read? .hexadecimal digits = some n := by
  unfold number? at h
  split at h
  · rename_i digits htext
    exact ⟨['$'], by decide, digits, htext, h⟩
  · rename_i digits htext
    exact ⟨['0', 'x'], by decide, digits, htext, h⟩
  · rename_i digits htext
    exact ⟨['0', 'X'], by decide, digits, htext, h⟩
  · exact absurd (Numeral.isWritable_of_read? h) hlimit

theorem isBelowLimit_iff :
    IsBelowLimit text ↔ ∃ n, number? text = some n ∧ n < 0 ∧ ¬ Numeral.IsWritable n := by
  constructor
  · rintro ⟨lead, hlead, digits, n, htext, hread, hneg, hlimit⟩
    have hnumber : number? text = some n := (number?_eq_read? hlead htext).trans hread
    exact ⟨n, hnumber, hneg, hlimit⟩
  · rintro ⟨n, hnumber, hneg, hlimit⟩
    obtain ⟨lead, hlead, digits, htext, hread⟩ := exists_lead_of_number? hnumber hlimit
    exact ⟨lead, hlead, digits, n, htext, hread, hneg, hlimit⟩

theorem ofText_eq_ok_iff {base : Nat} :
    ofText text = .ok base ↔ number? text = some (base : Int) := by
  unfold ofText ofInt
  cases number? text with
  | none => simp
  | some n =>
    by_cases hneg : n < 0
    · simp only [hneg, if_true, reduceCtorEq, Option.some.injEq, false_iff]
      omega
    · simp only [hneg, if_false, Except.ok.injEq, Option.some.injEq]
      omega

theorem ofText_eq_error_iff :
    ofText text = .error failure ↔
      (number? text = none ∧ failure = .ofError (.setting (.baseUnreadable text))) ∨
        ∃ n, number? text = some n ∧ n < 0 ∧
          failure = .ofError (.setting (.baseNegative n)) := by
  unfold ofText ofInt
  cases number? text with
  | none => simp [eq_comm]
  | some n => by_cases hneg : n < 0 <;> simp [hneg, eq_comm]

end BaseOffset

/-! ### The expansion RAM -/

namespace ExpansionRam

/-- The selection that is given. -/
def given? (ram : Option String) : Option ExpansionRam := orUsual .work select? ram

theorem ofText_eq_ok_iff {ram : ExpansionRam} :
    ofText text = .ok ram ↔ select? text = some ram := by
  unfold ofText
  cases select? text <;> simp

theorem ofText_eq_error_iff :
    ofText text = .error failure ↔
      select? text = none ∧ failure = .ofError (.setting (.ramUnknown text)) := by
  unfold ofText
  cases select? text <;> simp [eq_comm]

end ExpansionRam

/-! ### Both -/

namespace Settings

variable {base ram : Option String} {ranges : Bool} {settings : Settings}

/-- The texts stand for the settings. -/
structure Gives (base ram : Option String) (ranges : Bool) (settings : Settings) : Prop where
  base : BaseOffset.given? base = some (settings.base : Int)
  ram : ExpansionRam.given? ram = some settings.ram
  ranges : settings.ranges = ranges

/-- **What is wrong with the texts.**  The expansion RAM is at fault only if the base offset is
not. -/
inductive Refuses (base ram : Option String) : SettingFault → Prop
  | baseUnreadable {text : String} (htext : base = some text)
      (hnumber : BaseOffset.number? text = none) : Refuses base ram (.baseUnreadable text)
  | baseNegative {text : String} {n : Int} (htext : base = some text)
      (hnumber : BaseOffset.number? text = some n) (hneg : n < 0) :
      Refuses base ram (.baseNegative n)
  | ramUnknown {n : Nat} {text : String} (hbase : BaseOffset.given? base = some (n : Int))
      (htext : ram = some text) (hselect : ExpansionRam.select? text = none) :
      Refuses base ram (.ramUnknown text)

theorem ofTexts_eq (base ram : Option String) (ranges : Bool) :
    ofTexts base ram ranges = do
      let base ← orUsual BaseOffset.usual BaseOffset.ofText base
      let ram ← orUsual .work ExpansionRam.ofText ram
      return { base, ram, ranges } := by
  cases base <;> cases ram <;> rfl

theorem base_eq_ok_iff {n : Nat} :
    orUsual BaseOffset.usual BaseOffset.ofText base = .ok n ↔
      BaseOffset.given? base = some (n : Int) :=
  orUsual_eq_ok_iff (fun _ => BaseOffset.ofText_eq_ok_iff) Int.natCast_inj.symm base

theorem ram_eq_ok_iff {mode : ExpansionRam} :
    orUsual .work ExpansionRam.ofText ram = .ok mode ↔ ExpansionRam.given? ram = some mode :=
  orUsual_eq_ok_iff (fun _ => ExpansionRam.ofText_eq_ok_iff) Iff.rfl ram

/-- **Settings come of the texts that stand for them**, and of no others. -/
theorem ofTexts_eq_ok_iff :
    ofTexts base ram ranges = .ok settings ↔ Gives base ram ranges settings := by
  rw [ofTexts_eq]
  simp only [bind_eq_ok_iff, pure_eq_ok_iff, base_eq_ok_iff, ram_eq_ok_iff]
  constructor
  · rintro ⟨offset, hbase, mode, hram, rfl⟩
    exact ⟨hbase, hram, rfl⟩
  · rintro ⟨hbase, hram, rfl⟩
    exact ⟨settings.base, hbase, settings.ram, hram, rfl⟩

/-- **Texts with a fault are refused for it**, as far as the fault can be put into words. -/
theorem ofTexts_eq_error_iff :
    ofTexts base ram ranges = .error failure ↔
      ∃ fault, Refuses base ram fault ∧ failure = .ofError (.setting fault) := by
  rw [ofTexts_eq]
  simp only [bind_eq_error_iff, pure_ne_error, and_false, exists_false, or_false,
    orUsual_eq_error_iff, base_eq_ok_iff, BaseOffset.ofText_eq_error_iff,
    ExpansionRam.ofText_eq_error_iff]
  constructor
  · rintro (⟨text, htext, ⟨hnumber, hfailure⟩ | ⟨n, hnumber, hneg, hfailure⟩⟩ |
      ⟨n, hbase, text, htext, hselect, hfailure⟩)
    · exact ⟨.baseUnreadable text, .baseUnreadable htext hnumber, hfailure⟩
    · exact ⟨.baseNegative n, .baseNegative htext hnumber hneg, hfailure⟩
    · exact ⟨.ramUnknown text, .ramUnknown hbase htext hselect, hfailure⟩
  · rintro ⟨fault, hrefuses, hfailure⟩
    cases hrefuses with
    | @baseUnreadable text htext hnumber =>
      exact .inl ⟨text, htext, .inl ⟨hnumber, hfailure⟩⟩
    | @baseNegative text n htext hnumber hneg =>
      exact .inl ⟨text, htext, .inr ⟨n, hnumber, hneg, hfailure⟩⟩
    | @ramUnknown n text hbase htext hselect =>
      exact .inr ⟨n, hbase, text, htext, hselect, hfailure⟩

/-- The only fault that cannot be put into words is a base offset below the limit. -/
theorem exists_not_isWritable_iff :
    (∃ fault, Refuses base ram fault ∧ ¬ (Error.setting fault).IsWritable) ↔
      ∃ text, base = some text ∧ BaseOffset.IsBelowLimit text := by
  constructor
  · rintro ⟨fault, hrefuses, hlimit⟩
    cases hrefuses with
    | baseUnreadable htext hnumber =>
      exact absurd (by simp [Error.IsWritable, Error.numbers, SettingFault.numbers]) hlimit
    | @baseNegative text n htext hnumber hneg =>
      have hn : ¬ Numeral.IsWritable n := by
        simpa [Error.IsWritable, Error.numbers, SettingFault.numbers] using hlimit
      exact ⟨text, htext, BaseOffset.isBelowLimit_iff.2 ⟨n, hnumber, hneg, hn⟩⟩
    | ramUnknown hbase htext hselect =>
      exact absurd (by simp [Error.IsWritable, Error.numbers, SettingFault.numbers]) hlimit
  · rintro ⟨text, htext, hbelow⟩
    obtain ⟨n, hnumber, hneg, hn⟩ := BaseOffset.isBelowLimit_iff.1 hbelow
    refine ⟨.baseNegative n, .baseNegative htext hnumber hneg, ?_⟩
    simpa [Error.IsWritable, Error.numbers, SettingFault.numbers] using hn

theorem ofTexts_eq_digitLimit_iff :
    ofTexts base ram ranges = .error .digitLimit ↔
      ∃ text, base = some text ∧ BaseOffset.IsBelowLimit text := by
  rw [ofTexts_eq_error_iff, ← exists_not_isWritable_iff]
  refine exists_congr fun fault => and_congr_right fun _ => ?_
  rw [eq_comm, Failure.ofError_eq_digitLimit_iff]

theorem isWritable_of_refuses {fault : SettingFault} (hrefuses : Refuses base ram fault)
    (hbelow : ¬ ∃ text, base = some text ∧ BaseOffset.IsBelowLimit text) :
    (Error.setting fault).IsWritable := by
  by_contra hlimit
  exact hbelow (exists_not_isWritable_iff.1 ⟨fault, hrefuses, hlimit⟩)

/-- **How settings fail**: with an error about the fault, unless the base offset is below the
limit. -/
theorem ofTexts_eq_error_iff_of_limit :
    ofTexts base ram ranges = .error failure ↔
      (∃ fault, failure = .error (.setting fault) ∧ Refuses base ram fault ∧
        ¬ ∃ text, base = some text ∧ BaseOffset.IsBelowLimit text) ∨
      failure = .digitLimit ∧ ∃ text, base = some text ∧ BaseOffset.IsBelowLimit text := by
  constructor
  · intro h
    by_cases hbelow : ∃ text, base = some text ∧ BaseOffset.IsBelowLimit text
    · have hlimit : ofTexts base ram ranges = .error .digitLimit :=
        ofTexts_eq_digitLimit_iff.2 hbelow
      exact .inr ⟨Except.error.inj (h.symm.trans hlimit), hbelow⟩
    · obtain ⟨fault, hrefuses, rfl⟩ := ofTexts_eq_error_iff.1 h
      have hwritable := isWritable_of_refuses hrefuses hbelow
      exact .inl ⟨fault, Failure.ofError_of_isWritable hwritable, hrefuses, hbelow⟩
  · rintro (⟨fault, rfl, hrefuses, hbelow⟩ | ⟨rfl, hbelow⟩)
    · have hwritable := isWritable_of_refuses hrefuses hbelow
      exact ofTexts_eq_error_iff.2
        ⟨fault, hrefuses, (Failure.ofError_of_isWritable hwritable).symm⟩
    · exact ofTexts_eq_digitLimit_iff.2 hbelow

end Settings

namespace CommandLine

variable {files : Files} {request : Request}

/-! ### The command -/

/-- A command whose settings fail ends with their failure, before any file is looked at. -/
theorem run_convert_of_settings (kit : Toolkit) (h : request.settings = .error failure) :
    (kit.convert Files.disk request).run files =
      (kit.fail request.verbose "" failure, files) := by
  have hprepare : request.prepare = .error failure := by
    unfold Request.prepare
    rw [show Settings.ofTexts (some request.base) (some request.ram) request.ranges =
      .error failure from h]
    rfl
  unfold Toolkit.convert
  rw [hprepare]
  rfl

end CommandLine

namespace Settings

open CommandLine

/-- **Texts for the settings are accepted or refused.** Settings come of the texts that stand for
them. Otherwise the texts are refused for what is wrong with them, unless the base offset is below
the limit: then it is refused, but no error says so. A command that is given the texts ends with
exit code 2 if they are refused with an error, and with exit code 3 if not. -/
theorem ofTexts_givenOrRefused (base ram : Option String) (ranges : Bool) :
    (∀ settings, ofTexts base ram ranges = .ok settings ↔ Gives base ram ranges settings) ∧
    (∀ failure, ofTexts base ram ranges = .error failure ↔
      (∃ fault, failure = .error (.setting fault) ∧ Refuses base ram fault ∧
        ¬ ∃ text, base = some text ∧ BaseOffset.IsBelowLimit text) ∨
      failure = .digitLimit ∧ ∃ text, base = some text ∧ BaseOffset.IsBelowLimit text) ∧
    ∀ (kit : Toolkit) files environment words request,
      ((kit.instruct Files.disk environment words).run files).1 = .convert request →
      base = some request.base ∧ ram = some request.ram ∧ ranges = request.ranges →
      (¬ ∃ settings, Gives base ram ranges settings) →
      let after := (kit.run Files.disk environment words).run files
      after.2 = files ∧
        (BaseOffset.IsBelowLimit request.base → after.1.code = 3) ∧
        (¬ BaseOffset.IsBelowLimit request.base → after.1.code = 2) := by
  refine ⟨fun settings => ofTexts_eq_ok_iff, fun failure => ofTexts_eq_error_iff_of_limit, ?_⟩
  rintro kit files environment words request haccepted ⟨rfl, rfl, rfl⟩ hgives
  rw [run_run, haccepted]
  obtain ⟨failure, hfailure⟩ : ∃ failure, request.settings = .error failure := by
    cases hsettings : request.settings with
    | error failure => exact ⟨failure, rfl⟩
    | ok settings => exact absurd ⟨settings, ofTexts_eq_ok_iff.1 hsettings⟩ hgives
  rw [Toolkit.carryOut, run_convert_of_settings kit hfailure]
  refine ⟨rfl, fun hbelow => ?_, fun hbelow => ?_⟩
  · have hlimit : request.settings = .error .digitLimit :=
      ofTexts_eq_digitLimit_iff.2 ⟨request.base, rfl, hbelow⟩
    obtain rfl : failure = .digitLimit := Except.error.inj (hfailure.symm.trans hlimit)
    rfl
  · obtain ⟨fault, rfl, -, -⟩ | ⟨-, text, htext, htextBelow⟩ :=
      ofTexts_eq_error_iff_of_limit.1 hfailure
    · rfl
    · exact absurd (Option.some.inj htext ▸ htextBelow) hbelow

/-- A base offset that is no number ends the command with exit code 2. -/
theorem ofTexts_givenOrRefused_ten :
    ((Instruction.ofWords Files.disk {} ["g.dbg", "-b", "ten"]).run Files.empty).1 =
        .convert ⟨Path.ofText "g.dbg", none, "ten", "W", false, false⟩ ∧
      (¬ ∃ settings, Gives (some "ten") (some "W") false settings) ∧
      ¬ BaseOffset.IsBelowLimit "ten" ∧
      ((run Files.disk {} ["g.dbg", "-b", "ten"]).run Files.empty).1.code = 2 := by
  have hnumber : BaseOffset.number? "ten" = none := by decide
  have haccepted :
      ((Instruction.ofWords Files.disk {} ["g.dbg", "-b", "ten"]).run Files.empty).1 =
        .convert ⟨Path.ofText "g.dbg", none, "ten", "W", false, false⟩ := rfl
  have hgives : ¬ ∃ settings, Gives (some "ten") (some "W") false settings := by
    rintro ⟨settings, hbase, -, -⟩
    rw [show BaseOffset.given? (some "ten") = none from hnumber] at hbase
    cases hbase
  have hbelow : ¬ BaseOffset.IsBelowLimit "ten" := by
    intro h
    obtain ⟨n, hn, -, -⟩ := BaseOffset.isBelowLimit_iff.1 h
    rw [hnumber] at hn
    cases hn
  obtain ⟨-, -, hcode⟩ := (ofTexts_givenOrRefused (some "ten") (some "W") false).2.2 .standard
    Files.empty {} _ _ haccepted ⟨rfl, rfl, rfl⟩ hgives
  exact ⟨haccepted, hgives, hbelow, hcode hbelow⟩

/-! ### A base offset below the limit -/

theorem isBelowLimit_dollar {n : Int} (hneg : n < 0) (hlimit : ¬ Numeral.IsWritable n) :
    BaseOffset.IsBelowLimit ("$" ++ Numeral.hex n) := by
  have hblank : ∀ c ∈ '$' :: Numeral.write .hexadecimal n, Text.isBlank c = false := by
    rw [List.forall_mem_cons]
    exact ⟨by decide, fun c hc => Numeral.isBlank_of_mem_write hc⟩
  have htext : ("$" ++ Numeral.hex n).toList = '$' :: Numeral.write .hexadecimal n := by
    have hhex : (Numeral.hex n).toList = Numeral.write .hexadecimal n := String.toList_ofList
    rw [String.toList_append, hhex]
    rfl
  refine ⟨['$'], by decide, Numeral.write .hexadecimal n, n, ?_, ?_, hneg, hlimit⟩
  · rw [htext, Text.trim_eq_self_of_forall hblank]
    rfl
  · exact Numeral.read?_write fun h => absurd h (by decide)

/-- A negative number with one digit more than can be written. -/
def unshown : Int := -(Nat.pow 10 Numeral.digitLimit : Nat)

theorem not_isWritable_unshown : ¬ Numeral.IsWritable unshown := by
  have hpast := Numeral.not_isWritable_pow
  rwa [Numeral.IsWritable, ← Int.natAbs_neg] at hpast

theorem unshown_neg : unshown < 0 := by
  have hpos : ∀ limit, 0 < Nat.pow 10 limit := fun limit => Nat.pow_pos (by decide)
  unfold unshown
  -- the power of ten must not be computed
  generalize Numeral.digitLimit = limit
  have := hpos limit
  omega

/-- A base offset that is refused, but with no error that says so: the command ends as for a fault
of its own. -/
theorem ofTexts_below_digitLimit :
    let base := "$" ++ Numeral.hex unshown
    ofTexts (some base) none false = .error .digitLimit ∧
      (∀ fault, Failure.digitLimit ≠ .error (.setting fault)) ∧
      ((run Files.disk {} ["g.dbg", "-b", base]).run Files.empty).1.code = 3 := by
  have hbelow := isBelowLimit_dollar unshown_neg not_isWritable_unshown
  dsimp only
  generalize "$" ++ Numeral.hex unshown = base at hbelow ⊢
  have hlimit : ∀ ram, ofTexts (some base) ram false = .error .digitLimit :=
    fun ram => ofTexts_eq_digitLimit_iff.2 ⟨base, rfl, hbelow⟩
  have haccepted :
      ((Toolkit.standard.instruct Files.disk {} ["g.dbg", "-b", base]).run Files.empty).1 =
        .convert ⟨Path.ofText "g.dbg", none, base, "W", false, false⟩ := rfl
  have hsettings : (⟨Path.ofText "g.dbg", none, base, "W", false, false⟩ : Request).settings =
    .error .digitLimit := hlimit (some "W")
  refine ⟨hlimit none, by simp, ?_⟩
  rw [run, run_run, haccepted, Toolkit.carryOut, run_convert_of_settings .standard hsettings]
  rfl

end Settings
end DebugLabels
