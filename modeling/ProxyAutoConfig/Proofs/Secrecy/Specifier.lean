import ProxyAutoConfig.Proofs.Secrecy.Load
import ProxyAutoConfig.Proofs.Text.Cut

/-!
# What loading tells of a password

A specifier with a login is a web address, a URI that holds `file://`, or the name of a file, and
this does not depend on its password. The first two are shown in redacted form, and a URI names one
file whatever its password is. The name of a file is shown as it stands: whoever writes the scheme of
a web address in capitals has named a file, and its password is in sight.

**The law** (`told_eq_iff`): a script is loaded with the same words for all passwords exactly where
the specifier is not taken for the name of a file.
-/

namespace ProxyAutoConfig.Source

open ProxyAutoConfig.Text ProxyAutoConfig.Url

/-- **What loading a script tells**: the wording of its failure, or the name of the script. -/
def told (supply : Supply) (override : Option Credential) (specifier : String) :
    Except String String :=
  match (load supply override specifier).record.1 with
  | .ok loaded => .ok loaded.label
  | .error failure => .error failure.message

variable {scheme user secret secret' place : List Char} {supply : Supply}
  {override : Option Credential} {specifier specifier' : String}

/-- Scripts that are loaded alike are loaded with the same words. -/
theorem told_eq_of_paired
    (alike : Paired (Journal.Alike Eq fun _ _ => True) Eq (load supply override specifier)
      (load supply override specifier')) :
    told supply override specifier = told supply override specifier' := by
  have stand := alike _ _ .empty
  unfold told Recorded.record
  cases first : load supply override specifier Journal.empty <;>
    cases second : load supply override specifier' Journal.empty <;>
    rw [first, second] at stand <;> cases stand
  · next same _ => rw [same]
  · rfl

/-! ## Where a specifier leads -/

/-- The characters of a text with a login, cut behind its scheme. -/
theorem toList_loginText : (loginText scheme user secret place).toList =
    scheme ++ ':' :: ('/' :: '/' :: (user ++ ':' :: secret ++ '@' :: place)) :=
  String.toList_ofList

/-- Texts with a login that differ in the secret differ. -/
theorem loginText_inj (same : loginText scheme user secret place =
    loginText scheme user secret' place) : secret = secret' := by
  have lists := congrArg String.toList same
  rw [toList_loginText, toList_loginText] at lists
  simpa only [List.append_assoc, List.append_cancel_left_eq, List.cons.injEq, true_and,
    List.cons_append, List.append_cancel_right_eq] using lists

/-- A text begins with a scheme that it has. -/
theorem isPrefixOf_scheme_iff (ends : ':' ∉ scheme) {name : List Char} (plain : ':' ∉ name)
    (behind : List Char) :
    (name ++ [':', '/', '/']).isPrefixOf (scheme ++ ':' :: ('/' :: '/' :: behind)) = true ↔
      scheme = name := by
  rw [List.isPrefixOf_iff_prefix]
  constructor
  · rintro ⟨rest, whole⟩
    rw [List.append_assoc] at whole
    exact (append_mark_inj plain ends whole).1.symm
  · rintro rfl
    exact ⟨behind, by rw [List.append_assoc]; rfl⟩

/-- **It is the scheme that makes a web address**, in small letters. -/
theorem remote_loginText_iff (ends : ':' ∉ scheme) :
    Origin.ofSpecifier (loginText scheme user secret place) = .remote ↔
      scheme = "http".toList ∨ scheme = "https".toList := by
  have http : "http://".toList.isPrefixOf (loginText scheme user secret place).toList = true ↔
      scheme = "http".toList := by
    rw [toList_loginText]
    exact isPrefixOf_scheme_iff ends (by decide : ':' ∉ "http".toList) _
  have https : "https://".toList.isPrefixOf (loginText scheme user secret place).toList = true ↔
      scheme = "https".toList := by
    rw [toList_loginText]
    exact isPrefixOf_scheme_iff ends (by decide : ':' ∉ "https".toList) _
  rw [← http, ← https, ← Bool.or_eq_true, Origin.ofSpecifier]
  constructor
  · intro remote
    by_contra other
    rw [if_neg other] at remote
    split at remote <;> cases remote
  · intro front
    exact if_pos front

/-- A password has no part in whether a specifier holds `file://`. -/
theorem holds_file_loginText (isWord : IsWord secret) :
    holds "file://".toList (loginText scheme user secret place).toList = true ↔
      "file://".toList <:+: scheme ++ ':' :: '/' :: '/' :: (user ++ [':']) ∨
        "file://".toList <:+: place := by
  have slash : '/' ∉ secret := fun mem => absurd (isWord '/' mem) (by decide)
  have shape : (loginText scheme user secret place).toList =
      scheme ++ ':' :: '/' :: '/' :: (user ++ [':']) ++ secret ++ '@' :: place := by
    rw [toList_loginText]
    simp only [List.append_assoc, List.cons_append, List.nil_append]
  rw [holds_iff, shape, infix_append_cons_iff (by decide) (by decide)]
  refine or_congr_left ⟨fun held => ?_, fun front => front.trans (List.infix_append' [] _ _)⟩
  exact infix_of_infix_append_of_last (by decide) slash held

/-! ## Files -/

/-- A text with a login keeps its form without the blanks around it. -/
theorem trim_loginText : trim (loginText scheme user secret place).toList =
    (loginText (trimStart scheme) user secret (trimEnd place)).toList := by
  have front : trimStart (loginText scheme user secret place).toList =
      (loginText (trimStart scheme) user secret place).toList := by
    rw [toList_loginText, toList_loginText, trimStart, dropWhile_append_cons (by decide)]
    rfl
  have ends : ∀ before : List Char, trimEnd (before ++ '@' :: place) =
      before ++ '@' :: trimEnd place := by
    intro before
    rw [trimEnd, List.reverse_append, List.reverse_cons, List.append_assoc, List.singleton_append,
      dropWhile_append_cons (by decide), List.reverse_append, List.reverse_cons,
      List.reverse_reverse, List.append_assoc, List.singleton_append]
    rfl
  have shape : ∀ last, (loginText (trimStart scheme) user secret last).toList =
      trimStart scheme ++ ':' :: '/' :: '/' :: (user ++ ':' :: secret) ++ '@' :: last := by
    intro last
    rw [toList_loginText]
    simp only [List.append_assoc, List.cons_append]
  rw [trim, front, shape, ends, ← shape]

/-- **A URI of a file names one file, whatever its password is**, or is refused in the same way. -/
theorem filePath_loginText_eq (login : IsLogin scheme user)
    (trimmed : IsLogin (trimStart scheme) user) (isWord : IsWord secret) (isWord' : IsWord secret')
    (length : secret.length = secret'.length)
    (file : holds "file://".toList (loginText scheme user secret place).toList = true) :
    filePath (loginText scheme user secret place) =
      filePath (loginText scheme user secret' place) := by
  have file' : holds "file://".toList (loginText scheme user secret' place).toList = true :=
    (holds_file_loginText isWord').mpr ((holds_file_loginText isWord).mp file)
  have read : Outcome.Alike Url.Alike
      (parse (String.ofList (trim (loginText scheme user secret place).toList)))
      (parse (String.ofList (trim (loginText scheme user secret' place).toList))) := by
    rw [trim_loginText, trim_loginText, String.ofList_toList, String.ofList_toList]
    exact parse_alike (.words trimmed isWord isWord' length (trimEnd place))
  have refused : ∀ reason, refusedUrl (loginText scheme user secret place) reason =
      refusedUrl (loginText scheme user secret' place) reason := by
    intro reason
    have shown := (LoginAlike.words login isWord isWord' length place).uriText_eq
    rw [refusedUrl, refusedUrl, shown]
  unfold filePath
  simp only [file, file', refused]
  generalize parse (String.ofList (trim (loginText scheme user secret place).toList)) = x,
    parse (String.ofList (trim (loginText scheme user secret' place).toList)) = y at read
  cases read with
  | error flaw => rfl
  | ok urls =>
    obtain ⟨url, _⟩ := urls
    rfl

/-- Specifiers that name one file are loaded with the same words. -/
theorem told_eq_of_filePath (origin : Origin.ofSpecifier specifier = .file)
    (origin' : Origin.ofSpecifier specifier' = .file)
    (named : filePath specifier = filePath specifier') :
    told supply override specifier = told supply override specifier' := by
  unfold told load
  rw [origin, origin']
  unfold readFile
  rw [named]

/-- A failure to read a file shows which file it was. -/
theorem read_message_inj {path path' : String}
    (same : (Failure.read path).message = (Failure.read path').message) : path = path' := by
  have shown : "failed to read PAC file " ++ path = "failed to read PAC file " ++ path' := same
  exact (String.append_right_inj _).mp shown

/-- What is taken for the name of a file, and names none that is there, is shown as it stands. -/
theorem told_of_no_file (origin : Origin.ofSpecifier specifier = .file)
    (plain : holds "file://".toList specifier.toList = false) :
    told (Supply.ofFiles []) none specifier = .error (Failure.read specifier).message := by
  have named : filePath specifier = .ok specifier := by
    rw [filePath, plain]
    rfl
  unfold told load
  rw [origin]
  unfold readFile
  rw [named]
  rfl

/-! ## All specifiers -/

/-- **Loading a script tells nothing of a password, unless the specifier is taken for the name of a
file.** Let two specifiers differ in the password of a login alone, in letters and digits and as many
of them, and let neither be a script itself. They are loaded with the same words, by whoever answers
both downloads alike, exactly where they are web addresses, with a scheme in small letters, or hold
`file://`. -/
theorem told_eq_iff (login : IsLogin scheme user) (trimmed : IsLogin (trimStart scheme) user)
    (isWord : IsWord secret) (isWord' : IsWord secret') (length : secret.length = secret'.length)
    (address : Origin.ofSpecifier (loginText scheme user secret place) ≠ .text)
    (address' : Origin.ofSpecifier (loginText scheme user secret' place) ≠ .text) :
    (∀ (supply : Supply) override,
      supply.Agree supply (requestOf? override (loginText scheme user secret place))
        (requestOf? override (loginText scheme user secret' place)) →
      told supply override (loginText scheme user secret place) =
        told supply override (loginText scheme user secret' place)) ↔
    (scheme = "http".toList ∨ scheme = "https".toList) ∨
      holds "file://".toList (loginText scheme user secret place).toList = true ∨
      secret = secret' := by
  rw [← @remote_loginText_iff scheme user secret place login.ends]
  have remote_iff : Origin.ofSpecifier (loginText scheme user secret' place) = .remote ↔
      Origin.ofSpecifier (loginText scheme user secret place) = .remote := by
    rw [remote_loginText_iff login.ends, remote_loginText_iff login.ends]
  -- A specifier that is neither a web address nor a script is looked for among the files.
  have elsewhere : ∀ {specifier}, Origin.ofSpecifier specifier ≠ .text →
      Origin.ofSpecifier specifier ≠ .remote → Origin.ofSpecifier specifier = .file := by
    intro specifier notText notRemote
    cases origin : Origin.ofSpecifier specifier with
    | remote => exact absurd origin notRemote
    | text => exact absurd origin notText
    | file => rfl
  by_cases remote : Origin.ofSpecifier (loginText scheme user secret place) = .remote
  · refine iff_of_true (fun supply override agree => told_eq_of_paired ?_) (.inl remote)
    refine load_alike ⟨.words login isWord isWord' length place, fun _ => ?_⟩ ?_ agree
      (fun _ _ _ _ => trivial)
    · exact ⟨remote, remote_iff.mpr remote⟩
    · cases override with
      | none => exact .none
      | some credential => exact .some (.refl credential)
  · have origin := elsewhere address remote
    have origin' := elsewhere address' (fun there => remote (remote_iff.mp there))
    by_cases file : holds "file://".toList (loginText scheme user secret place).toList = true
    · refine iff_of_true (fun supply override _ => ?_) (.inr (.inl file))
      exact told_eq_of_filePath origin origin'
        (filePath_loginText_eq login trimmed isWord isWord' length file)
    · constructor
      · intro same
        have plain' : holds "file://".toList (loginText scheme user secret' place).toList = false :=
          Bool.eq_false_iff.mpr fun held' =>
            file ((holds_file_loginText isWord).mpr ((holds_file_loginText isWord').mp held'))
        have plain : holds "file://".toList (loginText scheme user secret place).toList = false :=
          Bool.eq_false_iff.mpr file
        have words := (told_of_no_file origin plain).symm.trans
          ((same (Supply.ofFiles []) none ⟨fun _ _ _ _ => rfl, rfl⟩).trans
            (told_of_no_file origin' plain'))
        exact .inr (.inr (loginText_inj (read_message_inj (Except.error.inj words))))
      · rintro (there | held | rfl)
        · exact absurd there remote
        · exact absurd held file
        · exact fun _ _ _ => rfl

/-- So the URI of a file tells nothing of a password in it. -/
theorem told_eq_iff_file :
    Origin.ofSpecifier "file://u:secret@h/x.pac" = .file ∧
      ∀ (supply : Supply) (override : Option Credential),
        told supply override "file://u:secret@h/x.pac" =
          told supply override "file://u:sesame@h/x.pac" := by
  have law := @told_eq_iff "file".toList ['u'] "secret".toList "sesame".toList "h/x.pac".toList
    ⟨by decide, by decide, forall_of_any_eq_false (by decide)⟩
    ⟨by decide, by decide, forall_of_any_eq_false (by decide)⟩ (by decide) (by decide) rfl
    (by decide) (by decide)
  refine ⟨by decide, fun supply override => ?_⟩
  have refused : requestOf? override "file://u:secret@h/x.pac" = none := rfl
  have agree : supply.Agree supply (requestOf? override "file://u:secret@h/x.pac")
      (requestOf? override "file://u:sesame@h/x.pac") := by
    rw [refused]
    exact ⟨nofun, rfl⟩
  exact law.mpr (.inr (.inl (by decide))) supply override agree

/-- **A scheme in capitals puts a password in sight.** -/
theorem told_in_capitals :
    ¬ ∀ scheme user secret secret' place : List Char, IsLogin scheme user → IsWord secret →
      IsWord secret' → secret.length = secret'.length →
      Origin.ofSpecifier (loginText scheme user secret place) ≠ .text →
      Origin.ofSpecifier (loginText scheme user secret' place) ≠ .text →
      ∀ (supply : Supply) override,
        supply.Agree supply (requestOf? override (loginText scheme user secret place))
          (requestOf? override (loginText scheme user secret' place)) →
        told supply override (loginText scheme user secret place) =
          told supply override (loginText scheme user secret' place) := by
  intro all
  have same := all "HTTP".toList ['u'] "secret".toList "sesame".toList "h/x.pac".toList
    ⟨by decide, by decide, forall_of_any_eq_false (by decide)⟩ (by decide) (by decide) rfl
    (by decide) (by decide) (Supply.ofFiles []) none ⟨fun _ _ _ _ => rfl, rfl⟩
  have shown : told (Supply.ofFiles []) none "HTTP://u:secret@h/x.pac" =
      .error "failed to read PAC file HTTP://u:secret@h/x.pac" := rfl
  have shown' : told (Supply.ofFiles []) none "HTTP://u:sesame@h/x.pac" =
      .error "failed to read PAC file HTTP://u:sesame@h/x.pac" := rfl
  have words := Except.error.inj (shown.symm.trans (same.trans shown'))
  exact absurd words (by decide)

end ProxyAutoConfig.Source
