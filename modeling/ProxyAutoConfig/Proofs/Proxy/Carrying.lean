import ProxyAutoConfig.Proofs.Outcome
import ProxyAutoConfig.Proxy.Uri

/-!
# Proxies that carry a credential

Putting a credential into a proxy URI rewrites its user name and its password and nothing else,
so the proxy stays where it is. Only the URI of a file refuses.
-/

namespace ProxyAutoConfig

/-! ## Writing user information -/

namespace Url

variable {url : Url} {credential : Credential}

/-- A URL that cannot carry a credential is left as it is. -/
theorem setUserinfo_of_refuses (refuses : url.carriesCredential = false) (write : Url → Url) :
    setUserinfo write url = .error () url := by
  show (if url.carriesCredential = true then _ else _ : Edit) url = _
  rw [refuses]
  rfl

theorem setUserinfo_of_carries (carries : url.carriesCredential = true) (write : Url → Url) :
    setUserinfo write url = .ok () (write url) := by
  show (if url.carriesCredential = true then _ else _ : Edit) url = _
  rw [carries]
  rfl

/-- The user name is refused already, and the password is not tried. -/
theorem setCredential_of_refuses (refuses : url.carriesCredential = false) :
    setCredential credential url = .error () url :=
  Outcome.bind_of_error (setUserinfo_of_refuses refuses _)

/-- A URL that has taken the user name takes the password too. -/
theorem setCredential_of_carries (carries : url.carriesCredential = true) :
    setCredential credential url = .ok () { url with
      username := encodeUserinfo credential.username.toList
      password := some (encodeUserinfo credential.password.toList) } := by
  have given : credential.password ≠ "" := fun empty => credential.fits.2.1 (by rw [empty]; rfl)
  have first : setUsername credential.username url =
      .ok () { url with username := encodeUserinfo credential.username.toList } :=
    setUserinfo_of_carries carries _
  -- What decides is the host and the scheme, which the first step leaves alone.
  have still : ({ url with username := encodeUserinfo credential.username.toList } :
      Url).carriesCredential = true := carries
  rw [setCredential, Outcome.bind_of_ok first, setPassword, setUserinfo_of_carries still,
    if_neg given]

end Url

/-! ## Proxies -/

namespace ProxyUri

variable {uri given : ProxyUri} {credential : Credential}

/-- A proxy URI with a credential written into it. -/
def carrying (uri : ProxyUri) (credential : Credential) : ProxyUri where
  url := { uri.url with
    username := Url.encodeUserinfo credential.username.toList
    password := some (Url.encodeUserinfo credential.password.toList) }
  hierarchical := uri.hierarchical
  hosted := uri.hosted

/-- It keeps its scheme. -/
@[simp] theorem scheme_carrying : (uri.carrying credential).scheme = uri.scheme := rfl

/-- It keeps its host. -/
@[simp] theorem host_carrying : (uri.carrying credential).host = uri.host := rfl

/-- It keeps its port. -/
@[simp] theorem port?_carrying : (uri.carrying credential).port? = uri.port? := rfl

/-- So it keeps its key. -/
@[simp] theorem authority_carrying : (uri.carrying credential).authority = uri.authority := rfl

/-- A proxy URI stays one with a credential written into it. -/
theorem withUrl_carrying : uri.withUrl (uri.carrying credential).url = uri.carrying credential := by
  have stays : ofUrl? (uri.carrying credential).url = some (uri.carrying credential) :=
    dif_pos ⟨(uri.carrying credential).hierarchical, (uri.carrying credential).hosted⟩
  rw [withUrl, stays, Option.getD_some]

/-- It is one as it stands. -/
theorem withUrl_self : uri.withUrl uri.url = uri := by
  have stays : ofUrl? uri.url = some uri := dif_pos ⟨uri.hierarchical, uri.hosted⟩
  rw [withUrl, stays, Option.getD_some]

/-- Every proxy URI but that of a file can carry a credential. -/
theorem carriesCredential_iff : uri.url.carriesCredential = true ↔ uri.scheme ≠ "file" := by
  rw [Url.carriesCredential, uri.hosted, Bool.true_and, bne_iff_ne, scheme]

/-- **Writing a credential is done as a whole or not at all**: both parts are written, or nothing has
been when the failure comes. -/
theorem setCredential_eq :
    setCredential credential uri =
      if uri.scheme = "file" then
        .error (.invalidProxyUri uri.redacted "cannot carry credentials") uri
      else .ok () (uri.carrying credential) := by
  rw [setCredential]
  by_cases file : uri.scheme = "file"
  · have refuses : uri.url.carriesCredential = false :=
      Bool.eq_false_iff.mpr fun carries => carriesCredential_iff.mp carries file
    simp only [Url.setCredential_of_refuses refuses, withUrl_self, if_pos file]
  · simp only [Url.setCredential_of_carries (carriesCredential_iff.mpr file), if_neg file]
    exact congrArg (EStateM.Result.ok ()) withUrl_carrying

/-- **Every proxy URI but that of a file takes a credential.** -/
theorem withCredential_eq_ok :
    uri.withCredential credential = .ok given ↔
      uri.scheme ≠ "file" ∧ given = uri.carrying credential := by
  rw [withCredential, setCredential_eq]
  by_cases file : uri.scheme = "file"
  · simp only [file, if_true, reduceCtorEq, ne_eq, not_true_eq_false, false_and]
  · simp only [file, if_false, Except.ok.injEq, ne_eq, not_false_eq_true, true_and]
    exact eq_comm

end ProxyUri

end ProxyAutoConfig
