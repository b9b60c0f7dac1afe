import ProxyAutoConfig.Proofs.Idna.Plain
import ProxyAutoConfig.Proofs.Net.Ipv4
import ProxyAutoConfig.Proofs.Text.Percent
import ProxyAutoConfig.Url.Host

/-!
# Plain hosts

A plain host is a name of small letters between dots, or an IPv4 address. Every scheme reads it and
writes it in the same way, those with rules for domains and those without: so a plain host keeps
its text, whatever it is read as.
-/

namespace ProxyAutoConfig.Host

open ProxyAutoConfig.Net ProxyAutoConfig.Text

/-- **The text of a plain host**: labels of small letters, or an IPv4 address. -/
inductive IsPlainText : List Char → Prop
  | name {labels : List (List Char)} : labels ≠ [] →
      (∀ label ∈ labels, label ≠ [] ∧ label.all Char.isLower = true) →
      IsPlainText (['.'].intercalate labels)
  | address (bits : Ipv4) : IsPlainText (Ipv4.text bits)

variable {cs : List Char}

/-- A plain host consists of labels that are not empty, of small letters and digits. -/
theorem IsPlainText.exists_labels (plain : IsPlainText cs) :
    ∃ labels, labels ≠ [] ∧ (∀ label ∈ labels, label ≠ [] ∧ ∀ c ∈ label, isPlain c = true) ∧
      cs = ['.'].intercalate labels := by
  cases plain with
  | @name labels nonempty letters =>
    refine ⟨labels, nonempty, fun label mem => ⟨(letters label mem).1, fun c hc => ?_⟩, rfl⟩
    exact Bool.or_eq_true_iff.mpr (.inl (List.all_eq_true.mp (letters label mem).2 c hc))
  | address bits =>
    refine ⟨_, List.cons_ne_nil _ _, fun label mem => ⟨Ipv4.ne_nil_of_mem_octets bits label mem,
      fun c hc => ?_⟩, rfl⟩
    exact Bool.or_eq_true_iff.mpr (.inr (Ipv4.isDigit_of_mem_octets bits label mem c hc))

/-- So it is made of small letters, digits and dots. -/
theorem IsPlainText.isNameChar (plain : IsPlainText cs) :
    ∀ c ∈ cs, Idna.isNameChar c = true := by
  obtain ⟨labels, _, chars, rfl⟩ := plain.exists_labels
  exact Idna.isNameChar_of_mem_intercalate fun label mem => (chars label mem).2

/-- What holds for all of these characters holds throughout a plain host. -/
theorem IsPlainText.forall_mem {P : Char → Prop} (plain : IsPlainText cs) (dot : P '.')
    (each : ∀ n < 0x80, isPlain (Char.ofNat n) = true → P (Char.ofNat n)) : ∀ c ∈ cs, P c :=
  fun c mem => Idna.of_isNameChar dot each (plain.isNameChar c mem)

/-- Other characters do not stand in a plain host. -/
theorem IsPlainText.not_mem (plain : IsPlainText cs) {c : Char}
    (strange : Idna.isNameChar c = false) : c ∉ cs := by
  intro mem
  rw [plain.isNameChar c mem] at strange
  cases strange

/-- A plain host is not empty. -/
theorem IsPlainText.ne_nil (plain : IsPlainText cs) : cs ≠ [] := by
  obtain ⟨labels, nonempty, named, rfl⟩ := plain.exists_labels
  cases labels with
  | nil => exact absurd rfl nonempty
  | cons label labels =>
    have front := (named label List.mem_cons_self).1
    cases labels with
    | nil => rwa [List.intercalate_singleton]
    | cons next rest =>
      rw [List.intercalate_cons_cons, List.append_assoc]
      exact List.append_ne_nil_of_left_ne_nil front _

/-- Only a bracket in front makes a host a bracketed one. -/
theorem bracketed?_eq_none (absent : '[' ∉ cs) : bracketed? cs = none := by
  unfold bracketed?
  split
  · exact absurd List.mem_cons_self absent
  · rfl

/-! ## Without rules -/

/-- **A scheme without rules keeps a plain host as it is.** -/
theorem ofText_of_isPlainText (plain : IsPlainText cs) :
    ∃ host, ofText cs = .ok host ∧ host ≠ .empty ∧ host.text = String.ofList cs := by
  have unbracketed : '[' ∉ cs := plain.not_mem (by decide)
  have allowed : ¬ cs.any isRefused = true := by
    rw [Bool.not_eq_true, List.any_eq_false]
    exact plain.forall_mem (P := fun c => ¬ isRefused c = true) (by decide) (by decide)
  have nonempty : ¬ cs.isEmpty = true := mt List.isEmpty_iff.mp plain.ne_nil
  have kept : Percent.encode Percent.isControl cs = cs := Percent.encode_of_plain
    (plain.forall_mem (P := fun c => c.toNat < 0x80 ∧ Percent.isControl c = false) (by decide)
      (by decide))
  refine ⟨.named _ (isName_encode allowed nonempty), ?_, nofun, ?_⟩
  · simp only [ofText, bracketed?_eq_none unbracketed, dif_neg allowed, dif_neg nonempty]
  · rw [text, kept]

/-! ## With rules -/

/-- A word that begins with a letter is no number. -/
theorem hostNumber?_of_isLower {c : Char} (lower : c.isLower = true) (rest : List Char) :
    Ipv4.hostNumber? (c :: rest) = none := by
  have plain : isPlain c = true := Bool.or_eq_true_iff.mpr (.inl lower)
  have other : c.isLower = true → c ≠ '0' ∧ digitIn? 10 c = none :=
    of_isPlain (P := fun c => c.isLower = true → c ≠ '0' ∧ digitIn? 10 c = none) (by decide) plain
  obtain ⟨leading, digit⟩ := other lower
  unfold Ipv4.hostNumber?
  split
  · next h => cases h
  · next h => exact absurd (List.cons.inj h).1 leading
  · next h => exact absurd (List.cons.inj h).1 leading
  · next h => exact absurd (List.cons.inj h).1 leading
  · simp only [decimal?, number?, List.isEmpty_cons, Bool.false_eq_true, if_false, numberFrom?,
      digit]

/-- A name of small letters does not end in a number. -/
theorem endsInNumber_of_isLower {labels : List (List Char)} (nonempty : labels ≠ [])
    (letters : ∀ label ∈ labels, label ≠ [] ∧ label.all Char.isLower = true) :
    Ipv4.endsInNumber (['.'].intercalate labels) = false := by
  have undotted : ∀ label ∈ labels, '.' ∉ label :=
    fun label mem dot => absurd (List.all_eq_true.mp (letters label mem).2 '.' dot) (by decide)
  obtain ⟨last, back⟩ := List.getLast?_isSome.mpr nonempty |> Option.isSome_iff_exists.mp
  obtain ⟨named, lower⟩ := letters last (List.mem_of_getLast? back)
  obtain ⟨c, rest, rfl⟩ := List.exists_cons_of_ne_nil named
  have here := List.all_eq_true.mp lower c List.mem_cons_self
  have noDigit : c.isLower = true → c.isDigit = false :=
    of_isPlain (P := fun c => c.isLower = true → c.isDigit = false) (by decide)
      (Bool.or_eq_true_iff.mpr (.inl here))
  rw [Ipv4.endsInNumber_intercalate back (fun label mem => (letters label mem).1) undotted,
    hostNumber?_of_isLower here, List.all_cons, noDigit here]
  rfl

/-- A text without a percent sign stands for itself. -/
theorem decodeLossy_of_escapeless (escapeless : '%' ∉ cs) :
    Utf8.decodeLossy (Percent.decode cs) = cs := by
  rw [Percent.decode_of_holdsEscape_eq_false (Percent.holdsEscape_of_not_mem escapeless),
    Utf8.decodeLossy_encode]

/-- Where nothing has to be decoded, a domain that is its own ASCII form is told by its end. -/
theorem ofDomain_of_ascii (bracketless : '[' ∉ cs) (escapeless : '%' ∉ cs)
    (ascii : Idna.toAscii? cs = some cs) (nonempty : cs ≠ []) :
    ofDomain cs = if Ipv4.endsInNumber cs then
        match Ipv4.parseHost? cs with
        | some bits => .ok (.ipv4 bits)
        | none => .error .ipv4Address
      else .ok (.named (String.ofList cs)
        (isName_of_toAscii? ascii (mt List.isEmpty_iff.mp nonempty))) := by
  have decoded := decodeLossy_of_escapeless escapeless
  rw [ofDomain, bracketed?_eq_none bracketless]
  simp only
  split
  · next refused => rw [decoded, ascii] at refused; cases refused
  · next name read =>
    obtain rfl := Option.some.inj (ascii.symm.trans (decoded ▸ read))
    exact dif_neg (mt List.isEmpty_iff.mp nonempty)

/-- A plain host is its own ASCII form. -/
theorem IsPlainText.toAscii?_eq (plain : IsPlainText cs) : Idna.toAscii? cs = some cs := by
  obtain ⟨labels, nonempty, chars, rfl⟩ := plain.exists_labels
  exact Idna.toAscii?_intercalate nonempty fun label mem => (chars label mem).2

/-- An address is read back under a scheme with rules. -/
theorem ofDomain_address (bits : Ipv4) : ofDomain (Ipv4.text bits) = .ok (.ipv4 bits) := by
  have plain := IsPlainText.address bits
  rw [ofDomain_of_ascii (plain.not_mem (by decide)) (plain.not_mem (by decide)) plain.toAscii?_eq
    plain.ne_nil, Ipv4.endsInNumber_text, Ipv4.parseHost?_text]
  rfl

/-- **A scheme with rules keeps the text of a plain host.** -/
theorem ofDomain_of_isPlainText (plain : IsPlainText cs) :
    ∃ host, ofDomain cs = .ok host ∧ host ≠ .empty ∧ host.text = String.ofList cs := by
  cases plain with
  | @name labels nonempty letters =>
    have plain := IsPlainText.name nonempty letters
    rw [ofDomain_of_ascii (plain.not_mem (by decide)) (plain.not_mem (by decide))
      plain.toAscii?_eq plain.ne_nil, endsInNumber_of_isLower nonempty letters]
    exact ⟨_, rfl, nofun, rfl⟩
  | address bits => exact ⟨_, ofDomain_address bits, nofun, rfl⟩

/-- Only the empty host is written as nothing. -/
theorem toList_text_ne_nil {host : Host} (nonempty : host ≠ .empty) : host.text.toList ≠ [] := by
  cases host with
  | empty => exact absurd rfl nonempty
  | named name isName => exact isName.1
  | ipv4 bits =>
    rw [text, String.toList_ofList]
    exact (IsPlainText.address bits).ne_nil
  | ipv6 bits =>
    rw [text, String.toList_ofList]
    exact List.cons_ne_nil _ _

end ProxyAutoConfig.Host
