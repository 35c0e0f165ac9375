import SchemaLint.Proofs.Numeral
import SchemaLint.Proofs.Settings.Repair

/-! The size limit. It is the integer that the environment spells, when the file has been provided to it.
A value that spells none is no error: the limit is then the one that stands for a missing value.
-/
namespace SchemaLint.Settings
open Environment Numeral

structure Limits (settings : Settings) (given : Option Text) : Prop where
  spelled : ∀ value n, given = some value → Spells (spaceIn isWideSpace value) value n →
    settings.maxUploadKb = n
  unspelled : ∀ value, given = some value → (∀ n, ¬ Spells (spaceIn isWideSpace value) value n) →
    settings.maxUploadKb = 512
  blank : ∀ value, given = some value → (∀ c ∈ value, Text.isBlank c = true) →
    settings.maxUploadKb = 512
  absent : given = none → settings.maxUploadKb = 512
  plain : ∀ n : Int, given = some (Decimal.ofInt n) → (Decimal.ofNat n.natAbs).length ≤ 4300 →
    settings.maxUploadKb = n
  maxSqlBytes : settings.maxSqlBytes = 1024 * settings.maxUploadKb

variable {settings : Settings} {environment : Environment} {value : Text}

theorem Reads.maxUploadKb_of_given (reads : settings.Reads environment)
    (given : environment.get? "MAX_UPLOAD_KB".toList = some value) :
    settings.maxUploadKb = (Numeral.read? value).getD 512 := by
  have limit := reads.maxUploadKb
  rwa [given] at limit

theorem Reads.maxUploadKb_of_spells {n : Int} (reads : settings.Reads environment)
    (given : environment.get? "MAX_UPLOAD_KB".toList = some value)
    (spells : Spells (spaceIn isWideSpace value) value n) : settings.maxUploadKb = n := by
  rw [reads.maxUploadKb_of_given given,read?_eq_some_iff.mpr spells]
  rfl

theorem Reads.maxUploadKb_of_not_spells (reads : settings.Reads environment)
    (given : environment.get? "MAX_UPLOAD_KB".toList = some value)
    (unspelled : ∀ n, ¬ Spells (spaceIn isWideSpace value) value n) :
    settings.maxUploadKb = 512 := by
  have unread : Numeral.read? value = none := by
    apply Option.eq_none_iff_forall_ne_some.mpr
    intro n read
    exact unspelled n (read?_eq_some_iff.mp read)
  rw [reads.maxUploadKb_of_given given,unread]
  rfl

theorem Reads.limits (reads : settings.Reads environment) :
    settings.Limits (environment.get? "MAX_UPLOAD_KB".toList) where
  spelled := fun value n given spells => reads.maxUploadKb_of_spells given spells
  unspelled := fun value given unspelled => reads.maxUploadKb_of_not_spells given unspelled
  blank := by
    intro value given blank
    apply reads.maxUploadKb_of_not_spells given
    intro n spells
    obtain ⟨c,member,letter⟩ := spells.exists_not_blank
    rw [blank c member] at letter
    cases letter
  absent := by
    intro absent
    have limit := reads.maxUploadKb
    rwa [absent] at limit
  plain := fun n given few => reads.maxUploadKb_of_spells given (spells_ofInt n few)
  maxSqlBytes := reads.maxSqlBytes

theorem exists_settings {loader : Loader} {file : Option Bytes}
    (unstopped : (loader.load environment file).2 = none)
    (dotted : ∀ suffix, (loader.load environment file).1.get? suffixName = some suffix →
      suffix.head? = some '.') :
    ∃ settings, load loader environment file =
      ((loader.load environment file).1,.ok settings) := by
  have dot : (ofEnvironment (loader.load environment file).1).suffix.head? = some '.' := by
    cases given : (loader.load environment file).1.get? suffixName with
    | none => simp [ofEnvironment,given]
    | some suffix => simpa [ofEnvironment,given] using dotted suffix given
  rw [load_of_unstopped unstopped]
  cases checked : check (ofEnvironment (loader.load environment file).1) with
  | ok settings => exact ⟨settings,rfl⟩
  | error error => exact absurd dot (check_eq_error_iff.mp checked).2

namespace Session
variable {loader : Loader} {reader : Reader} {session : Session}

/-- Settings that are loaded have the limit that the environment spells, which is the one from before
if there was one. -/
theorem get_limits (copies : loader.Copies reader) (unheld : session.held = none)
    (unstopped : (loader.load session.environment session.file).2 = none)
    (dotted : ∀ suffix,
      (session.get loader).1.environment.get? "LINT_FILE_SUFFIX".toList = some suffix →
        suffix.head? = some '.') :
    ∃ settings, (session.get loader).2 = .ok settings ∧
      settings.Limits ((session.get loader).1.environment.get? "MAX_UPLOAD_KB".toList) ∧
      ∀ value, session.environment.get? "MAX_UPLOAD_KB".toList = some value →
        (session.get loader).1.environment.get? "MAX_UPLOAD_KB".toList = some value := by
  have grows := grows_get copies session
  rw [get_of_unheld unheld] at dotted grows ⊢
  dsimp only at dotted grows ⊢
  rw [load_fst] at dotted
  obtain ⟨settings,loaded⟩ := exists_settings unstopped dotted
  have answered : (load loader session.environment session.file).2 = .ok settings := by rw [loaded]
  exact ⟨settings,answered,(load_reads answered).limits,fun value given => grows.keeps _ _ given⟩

theorem get_limits_arabic :
    let loader := Loader.copying fun _ _ => .ok []
    let value := "\u00A0-0_\u0663\u3000".toList
    let session := (start.run loader [.setVariable "MAX_UPLOAD_KB".toList value]).1
    loader.Copies (fun _ _ => .ok []) ∧ session.held = none ∧
      (loader.load session.environment session.file).2 = none ∧
      Spells (spaceIn isWideSpace value) value (-3) ∧
      ∃ settings, (session.get loader).2 = .ok settings ∧ settings.maxUploadKb = -3 ∧
        settings.maxSqlBytes = -3072 := by
  intro loader value session
  have copies := Loader.copying_copies fun _ _ => .ok []
  have dotted : ∀ suffix,
      (session.get loader).1.environment.get? "LINT_FILE_SUFFIX".toList = some suffix →
        suffix.head? = some '.' := by
    intro suffix given
    have absent : (session.get loader).1.environment.get? "LINT_FILE_SUFFIX".toList = none := by
      decide +kernel
    rw [absent] at given
    cases given
  have digits : Digits ['0','_','\u0663'] [0,3] :=
    .apart (DecimalDigit.value?_eq_some_iff.mp (by decide))
      (.last (DecimalDigit.value?_eq_some_iff.mp (by decide)))
  have spells : Spells (spaceIn isWideSpace value) value (-3) :=
    ⟨['\u00A0'],['-'],['0','_','\u0663'],['\u3000'],[0,3],rfl,
      List.forall_mem_singleton.mpr (by decide),.minus 3,digits,by decide,
      List.forall_mem_singleton.mpr (by decide)⟩
  have given : (session.get loader).1.environment.get? "MAX_UPLOAD_KB".toList = some value := by
    decide +kernel
  obtain ⟨settings,answered,limits,-⟩ := get_limits copies (rfl : session.held = none) rfl dotted
  have limit := limits.spelled value (-3) given spells
  refine ⟨copies,rfl,rfl,spells,settings,answered,limit,?_⟩
  rw [limits.maxSqlBytes,limit]
  rfl

/-- A separator of ASCII is a blank, but not white space behind a numeral. -/
theorem get_separatorBehind :
    let loader := Loader.copying fun _ _ => .ok []
    let value := "1\u00A0\x1C".toList
    let session := (start.run loader [.setVariable "MAX_UPLOAD_KB".toList value]).1
    Spells (spaceIn Text.isBlank value) value 1 ∧ session.held = none ∧
      (session.get loader).1.environment.get? "MAX_UPLOAD_KB".toList = some value ∧
      ∃ settings, (session.get loader).2 = .ok settings ∧ settings.maxUploadKb = 512 := by
  intro loader value session
  have digits : Digits ['1'] [1] := .last (DecimalDigit.value?_eq_some_iff.mp (by decide))
  have behind : ∀ c ∈ ['\u00A0','\x1C'], spaceIn Text.isBlank value c = true :=
    List.forall_mem_cons.mpr ⟨by decide,List.forall_mem_singleton.mpr (by decide)⟩
  refine ⟨⟨[],[],['1'],['\u00A0','\x1C'],[1],rfl,by simp,.bare 1,digits,by decide,behind⟩,rfl,
    by decide +kernel,?_⟩
  exact ⟨ofEnvironment session.environment,by decide +kernel,by decide +kernel⟩

end Session
end SchemaLint.Settings
