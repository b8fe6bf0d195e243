import BoundedTls.Proofs.Config.Loading
import BoundedTls.Tls.BuiltIn

/-!
# One identity, whichever way it is loaded

A server's identity is a certificate chain and a private key. It is made from two texts, from the
two files that hold them, or from settings that name the files. All three look at the same things
in the same order, so they give the same context, or stop at the same flaw; only the name under
which a flaw speaks of its source differs. None of this depends on what the engine reads out of a
text and on what it accepts.

## Architecture

- **Views of a text**: what the engine reads out of a text, and what is wrong with it (`HoldsChain`,
  `ChainFlaw`, `KeyFlaw`).
- **Flaws of an identity**: the first thing that is wrong (`IdentityFlaw`).
- **Sources**: texts under names of their own, and files (`ofNamedTexts`).
-/

namespace BoundedTls.Tls

open BoundedTls.Config

namespace Engine

variable {engine : Engine} {text : Reading} {source : String} {e : MaterialError}

/-! ## Views of a text -/

/-- The text can be read to its end, and these are its certificates. -/
structure HoldsChain (engine : Engine) (text : Reading) (chain : List (List UInt8)) : Prop where
  holds : engine.certificates text = .ok chain
  nonempty : chain ≠ []

/-- What is wrong with the text of a chain. -/
inductive ChainFlaw (engine : Engine) (text : Reading) (source : String) :
    MaterialError → Prop where
  | unreadable {fault : Fault} :
      engine.certificates text = .error fault → ChainFlaw engine text source (.unreadable fault)
  | empty :
      engine.certificates text = .ok [] → ChainFlaw engine text source (.noCertificates source)

/-- What is wrong with the text of a key. -/
inductive KeyFlaw (engine : Engine) (text : Reading) (source : String) :
    MaterialError → Prop where
  | unreadable {fault : Fault} :
      engine.privateKey text = .error fault → KeyFlaw engine text source (.unreadable fault)
  | empty :
      engine.privateKey text = .ok none → KeyFlaw engine text source (.noPrivateKey source)

theorem chainOf_eq (engine : Engine) (text : Reading) (source : String) :
    engine.chainOf text source =
      match engine.certificates text with
      | .error fault => .error (.unreadable fault)
      | .ok [] => .error (.noCertificates source)
      | .ok (first :: others) => .ok (first :: others) := by
  unfold chainOf
  cases engine.certificates text with
  | error fault => rfl
  | ok chain => cases chain <;> rfl

theorem keyOf_eq (engine : Engine) (text : Reading) (source : String) :
    engine.keyOf text source =
      match engine.privateKey text with
      | .error fault => .error (.unreadable fault)
      | .ok none => .error (.noPrivateKey source)
      | .ok (some key) => .ok key := by
  unfold keyOf
  cases engine.privateKey text with
  | error fault => rfl
  | ok key => cases key <;> rfl

theorem chainOf_eq_ok_iff {chain : List (List UInt8)} :
    engine.chainOf text source = .ok chain ↔ HoldsChain engine text chain := by
  rw [chainOf_eq]
  constructor
  · intro h
    split at h
    · cases h
    · cases h
    · cases h
      exact ⟨‹_›, List.cons_ne_nil _ _⟩
  · rintro ⟨hholds, hsome⟩
    obtain ⟨first, others, rfl⟩ := List.exists_cons_of_ne_nil hsome
    simp only [hholds]

theorem chainOf_eq_error_iff :
    engine.chainOf text source = .error e ↔ ChainFlaw engine text source e := by
  rw [chainOf_eq]
  constructor
  · intro h
    split at h
    · cases h
      exact .unreadable ‹_›
    · cases h
      exact .empty ‹_›
    · cases h
  · rintro (hfault | hnone)
    · simp only [hfault]
    · simp only [hnone]

theorem keyOf_eq_ok_iff {key : PrivateKey} :
    engine.keyOf text source = .ok key ↔ engine.privateKey text = .ok (some key) := by
  rw [keyOf_eq]
  constructor
  · intro h
    split at h
    · cases h
    · cases h
    · cases h
      exact ‹_›
  · intro hkey
    simp only [hkey]

theorem keyOf_eq_error_iff :
    engine.keyOf text source = .error e ↔ KeyFlaw engine text source e := by
  rw [keyOf_eq]
  constructor
  · intro h
    split at h
    · cases h
      exact .unreadable ‹_›
    · cases h
      exact .empty ‹_›
    · cases h
  · rintro (hfault | hnone)
    · simp only [hfault]
    · simp only [hnone]

/-- What the engine has against a chain and a key is always a refusal. -/
theorem serverOf_eq_error_iff {chain : List (List UInt8)} {key : PrivateKey} :
    engine.serverOf chain key = .error e ↔
      ∃ failure, engine.serverSide chain key = .error failure ∧ .refused failure = e :=
  mapError_eq_error_iff

/-! ## Flaws of an identity -/

/-- What is wrong with an identity that is made of two texts under these names. A rule for a later
text asks that nothing is wrong before it, so at most one flaw counts. -/
inductive IdentityFlaw (engine : Engine) (chainText keyText : Reading)
    (chainName keyName : String) : MaterialError → Prop where
  | chain {e : MaterialError} : ChainFlaw engine chainText chainName e →
      IdentityFlaw engine chainText keyText chainName keyName e
  | key {chain : List (List UInt8)} {e : MaterialError} : HoldsChain engine chainText chain →
      KeyFlaw engine keyText keyName e →
      IdentityFlaw engine chainText keyText chainName keyName e
  | refused {chain : List (List UInt8)} {key : PrivateKey} {failure : Failure} :
      HoldsChain engine chainText chain → engine.privateKey keyText = .ok (some key) →
      engine.serverSide chain key = .error failure →
      IdentityFlaw engine chainText keyText chainName keyName (.refused failure)

end Engine

namespace MaterialError

/-- The error with these names for the sources of chain and key. -/
def named (chainName keyName : String) : MaterialError → MaterialError
  | noCertificates _ => noCertificates chainName
  | noPrivateKey _ => noPrivateKey keyName
  | e => e

end MaterialError

namespace Engine

open MaterialError

variable {engine : Engine} {files : Files} {chainText keyText : Reading}
  {chainBytes keyBytes : List UInt8} {chainName keyName chainPath keyPath : String}
  {e : MaterialError}

/-! ## Sources -/

/-- The context of a server from two texts under names of their own. -/
def ofNamedTexts (engine : Engine) (chainText keyText : Reading) (chainName keyName : String) :
    Except MaterialError Context :=
  (engine.chainOf chainText chainName).bind fun chain =>
    (engine.keyOf keyText keyName).bind fun key =>
      (engine.serverOf chain key).bind fun server => .ok { server := some server }

theorem ofServerTexts_eq (engine : Engine) (chainBytes keyBytes : List UInt8) :
    engine.ofServerTexts chainBytes keyBytes =
      engine.ofNamedTexts ⟨chainBytes, none⟩ ⟨keyBytes, none⟩ "certificate PEM" "key PEM" :=
  rfl

theorem openFile_eq_ok_iff {path : String} {text : Reading} :
    openFile files path = .ok text ↔ files.open? path = some (.ok text) := by
  unfold openFile
  cases files.open? path with
  | none => simp
  | some opened => cases opened <;> simp [Except.mapError]

theorem openFile_eq_error_iff {path : String} :
    openFile files path = .error e ↔ files.open? path = none ∧ .notFound path = e ∨
      ∃ fault, files.open? path = some (.error fault) ∧ .unreadable fault = e := by
  unfold openFile
  cases files.open? path with
  | none => simp
  | some opened => cases opened <;> simp [Except.mapError]

theorem loadServer_eq (engine : Engine) (files : Files) (chainPath keyPath : String) :
    engine.loadServer files chainPath keyPath =
      (openFile files chainPath).bind fun chainText =>
        (engine.chainOf chainText chainPath).bind fun chain =>
          (openFile files keyPath).bind fun keyText =>
            (engine.keyOf keyText keyPath).bind fun key =>
              (engine.serverOf chain key).bind fun server => .ok { server := some server } :=
  rfl

/-- Files that are there are as good as their texts. -/
theorem loadServer_of_files (hchain : files.open? chainPath = some (.ok chainText))
    (hkey : files.open? keyPath = some (.ok keyText)) :
    engine.loadServer files chainPath keyPath =
      engine.ofNamedTexts chainText keyText chainPath keyPath := by
  rw [loadServer_eq, openFile_eq_ok_iff.mpr hchain, openFile_eq_ok_iff.mpr hkey]
  rfl

/-- **The first flaw decides.** -/
theorem ofNamedTexts_eq_error_iff :
    engine.ofNamedTexts chainText keyText chainName keyName = .error e ↔
      IdentityFlaw engine chainText keyText chainName keyName e := by
  simp only [ofNamedTexts, bind_eq_error_iff, chainOf_eq_ok_iff, chainOf_eq_error_iff,
    keyOf_eq_ok_iff, keyOf_eq_error_iff, serverOf_eq_error_iff, reduceCtorEq, and_false,
    exists_false, or_false]
  constructor
  · rintro (hchain | ⟨chain, hchain, hkey | ⟨key, hkey, failure, hside, rfl⟩⟩)
    · exact .chain hchain
    · exact .key hchain hkey
    · exact .refused hchain hkey hside
  · rintro (hchain | ⟨hchain, hkey⟩ | ⟨hchain, hkey, hside⟩)
    · exact Or.inl hchain
    · exact Or.inr ⟨_, hchain, Or.inl hkey⟩
    · exact Or.inr ⟨_, hchain, Or.inr ⟨_, hkey, _, hside, rfl⟩⟩

/-- The sides of a context that was made of texts: a server and no client. -/
theorem ofNamedTexts_sides {context : Context}
    (h : engine.ofNamedTexts chainText keyText chainName keyName = .ok context) :
    ∃ server, context = { server := some server } := by
  simp only [ofNamedTexts, bind_eq_ok_iff] at h
  obtain ⟨_, -, _, -, server, -, hcontext⟩ := h
  exact ⟨server, (Except.ok.inj hcontext).symm⟩

theorem loadServer_sides {context : Context}
    (h : engine.loadServer files chainPath keyPath = .ok context) :
    ∃ server, context = { server := some server } := by
  simp only [loadServer_eq, bind_eq_ok_iff] at h
  obtain ⟨_, -, _, -, _, -, _, -, server, -, hcontext⟩ := h
  exact ⟨server, (Except.ok.inj hcontext).symm⟩

/-! ## Names of sources -/

section

variable {ε ε' α β : Type}

theorem mapError_bind (x : Except ε α) (next : α → Except ε β) (f : ε → ε') :
    (x.bind next).mapError f = (x.mapError f).bind fun a => (next a).mapError f := by
  cases x <;> rfl

end

theorem chainOf_named (text : Reading) (source chainName keyName : String) :
    (engine.chainOf text source).mapError (named chainName keyName) =
      engine.chainOf text chainName := by
  rw [chainOf_eq, chainOf_eq]
  split <;> rfl

theorem keyOf_named (text : Reading) (source chainName keyName : String) :
    (engine.keyOf text source).mapError (named chainName keyName) = engine.keyOf text keyName := by
  rw [keyOf_eq, keyOf_eq]
  split <;> rfl

theorem serverOf_named (chain : List (List UInt8)) (key : PrivateKey)
    (chainName keyName : String) :
    (engine.serverOf chain key).mapError (named chainName keyName) = engine.serverOf chain key := by
  unfold serverOf
  cases engine.serverSide chain key <;> rfl

/-- **Other names for the sources change nothing but the names.** -/
theorem ofNamedTexts_named (chainText keyText : Reading) (first second chainName keyName : String) :
    engine.ofNamedTexts chainText keyText chainName keyName =
      (engine.ofNamedTexts chainText keyText first second).mapError (named chainName keyName) := by
  simp only [ofNamedTexts, mapError_bind, chainOf_named, keyOf_named, serverOf_named]
  rfl

/-! ## Settings that name an identity -/

/-- Settings that name a chain and a key load what the two files hold. -/
theorem ofSettings_identity (engine : Engine) (files : Files) (chainPath keyPath : String) :
    engine.ofSettings files { certPath := some chainPath, keyPath := some keyPath } =
      engine.loadServer files chainPath keyPath := by
  have hserver :
      engine.serverOfSettings files { certPath := some chainPath, keyPath := some keyPath } =
        (engine.loadServer files chainPath keyPath).map Context.server := rfl
  have hclient :
      engine.clientOfSettings files { certPath := some chainPath, keyPath := some keyPath } =
        .ok none := rfl
  simp only [ofSettings, hserver, hclient]
  cases hload : engine.loadServer files chainPath keyPath with
  | error e => rfl
  | ok context =>
    obtain ⟨server, rfl⟩ := loadServer_sides hload
    rfl

/-! ## All ways of loading -/

/-- A key file that is not there is told of only if nothing is wrong with the chain. -/
theorem loadServer_of_missing (hchain : files.open? chainPath = some (.ok chainText))
    (hmissing : files.open? keyPath = none) :
    engine.loadServer files chainPath keyPath = .error e ↔
      ChainFlaw engine chainText chainPath e ∨
        (∃ chain, HoldsChain engine chainText chain) ∧ e = .notFound keyPath := by
  rw [loadServer_eq, openFile_eq_ok_iff.mpr hchain,
    openFile_eq_error_iff.mpr (Or.inl ⟨hmissing, rfl⟩)]
  show ((engine.chainOf chainText chainPath).bind fun _ => .error (.notFound keyPath)) =
    .error e ↔ _
  simp only [bind_eq_error_iff, chainOf_eq_ok_iff, chainOf_eq_error_iff, Except.error.injEq,
    exists_and_right, @eq_comm _ e]

/-- The whole bytes of a file are what can be read of it. -/
theorem open?_of_contents {path : String} {bytes : List UInt8}
    (h : files.find path = .ok (.contents bytes)) :
    files.open? path = some (.ok ⟨bytes, none⟩) := by
  rw [Files.open?, h]

/-- **All ways of loading an identity agree**, whatever the engine reads and accepts. A chain and a
key give the same from two texts, from the files that hold them, and from settings that name the
files: one context with a server side and no client side, or the first flaw, which is a text of the
chain that cannot be read, then a chain without certificates, then a key that cannot be read, then
no key, then what the engine has against them. Only the names of the sources are those of the way
that was taken. A key file that is not there comes after the chain. -/
theorem ways_of_loading_agree (engine : Engine)
    (hchain : files.find chainPath = .ok (.contents chainBytes))
    (hkey : files.find keyPath = .ok (.contents keyBytes)) :
    engine.loadServer files chainPath keyPath =
        (engine.ofServerTexts chainBytes keyBytes).mapError (named chainPath keyPath) ∧
      (∀ path, engine.ofSettings files { certPath := some chainPath, keyPath := some path } =
        engine.loadServer files chainPath path) ∧
      (∀ context, engine.ofServerTexts chainBytes keyBytes = .ok context →
        ∃ server, context = { server := some server, client := none }) ∧
      (∀ e, engine.ofServerTexts chainBytes keyBytes = .error e ↔
        IdentityFlaw engine ⟨chainBytes, none⟩ ⟨keyBytes, none⟩ "certificate PEM" "key PEM" e) ∧
      ∀ missing, files.open? missing = none → ∀ e,
        engine.loadServer files chainPath missing = .error e ↔
          ChainFlaw engine ⟨chainBytes, none⟩ chainPath e ∨
            (∃ chain, HoldsChain engine ⟨chainBytes, none⟩ chain) ∧ e = .notFound missing := by
  refine ⟨?_, ofSettings_identity engine files chainPath, fun context => ofNamedTexts_sides,
    fun e => ofNamedTexts_eq_error_iff, ?_⟩
  · rw [loadServer_of_files (open?_of_contents hchain) (open?_of_contents hkey), ofServerTexts_eq]
    exact ofNamedTexts_named _ _ _ _ _ _
  · exact fun missing hmissing e => loadServer_of_missing (open?_of_contents hchain) hmissing

/-- A chain without a key: in memory the flaw speaks of the key, with files of the file. -/
theorem ways_of_loading_agree_of_no_key :
    let chainBytes := Text.Utf8.encode
      "-----BEGIN CERTIFICATE-----\nMAA=\n-----END CERTIFICATE-----\n"
    let files := Files.ofFindings [("chain.pem", .ok (.contents chainBytes)),
      ("key.pem", .ok (.contents []))]
    builtIn.ofServerTexts chainBytes [] = .error (.noPrivateKey "key PEM") ∧
      builtIn.loadServer files "chain.pem" "key.pem" = .error (.noPrivateKey "key.pem") ∧
      builtIn.loadServer files "chain.pem" "lost.pem" = .error (.notFound "lost.pem") := by
  intro chainBytes files
  have hchain : files.find "chain.pem" = .ok (.contents chainBytes) := by decide +kernel
  have hkey : files.find "key.pem" = .ok (.contents []) := by decide +kernel
  obtain ⟨hfiles, -, -, hflaw, hmissing⟩ := ways_of_loading_agree builtIn hchain hkey
  have hholds : HoldsChain builtIn ⟨chainBytes, none⟩ [[0x30, 0x00]] :=
    ⟨by decide +kernel, by decide⟩
  have hdirect : builtIn.ofServerTexts chainBytes [] = .error (.noPrivateKey "key PEM") :=
    (hflaw _).mpr (.key hholds (.empty (by decide +kernel)))
  refine ⟨hdirect, by rw [hfiles, hdirect]; rfl, ?_⟩
  exact (hmissing "lost.pem" (by decide +kernel) _).mpr (Or.inr ⟨⟨_, hholds⟩, rfl⟩)

end Engine

end BoundedTls.Tls
