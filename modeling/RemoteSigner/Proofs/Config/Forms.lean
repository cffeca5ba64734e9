import RemoteSigner.Config.Location
import RemoteSigner.Proofs.Json.Forms

/-!
# The texts of a configuration

A configuration is read from every text that says the same: members in any order, members left out
where the default is meant, `null` where there is nothing, blanks anywhere, and members of a newer
program that this one does not know, with values of any kind, at every level.

## Main definitions

* `Libs.Form`, `Keystores.Form`, `Document.Form`: the texts of the parts and of the whole
* `Document.Writes`: the files of a configuration

## Main results

* `Document.writes_file`: the file that is written is one of them
* `Document.load_writes`: each of them is read as that configuration
-/

namespace RemoteSigner.Config

open Json

/-- A place for a text that has to be there. -/
def textPlace (name s : String) : Place := ⟨name, Literal s, False⟩

/-- A place for a text that need not be there if it is the default. -/
def defaultPlace (name s fallback : String) : Place := ⟨name, Literal s, s = fallback⟩

/-- A place for what may be there or not. -/
def optionPlace (name : String) (forms : α → Bytes → Prop) (a : Option α) : Place :=
  ⟨name, OptionForm forms a, a = none⟩

section

variable (name s fallback : String) (forms : α → Bytes → Prop) (a : Option α)

@[simp] theorem name_textPlace : (textPlace name s).name = name := rfl

@[simp] theorem mayLack_textPlace : (textPlace name s).mayLack = False := rfl

@[simp] theorem name_defaultPlace : (defaultPlace name s fallback).name = name := rfl

@[simp] theorem mayLack_defaultPlace :
    (defaultPlace name s fallback).mayLack = (s = fallback) := rfl

@[simp] theorem name_optionPlace : (optionPlace name forms a).name = name := rfl

@[simp] theorem mayLack_optionPlace : (optionPlace name forms a).mayLack = (a = none) := rfl

end

theorem readsForms_optionText (s : Option String) :
    ReadsForms (Item.option (Item.text "a string")) 0 (OptionForm Literal s) s :=
  ReadsForms.option (fun s => readsForms_text "a string" s) (fun _ _ => Literal.begins) s

/-! ## Files that are named -/

namespace Libs

/-- The places for the names. -/
def places (libs : Libs) : List Place :=
  [defaultPlace "ecp" libs.ecp "", optionPlace "ecp_client" Literal libs.client,
    optionPlace "tls_offload" Literal libs.tlsOffload]

/-- The texts of the names. -/
def Form (libs : Libs) : Bytes → Prop := ObjectForm libs.places

/-- What has been read of the names behind some members. -/
def draft (libs : Libs) (names : List String) : Draft :=
  ⟨seen "ecp" libs.ecp names, seen "ecp_client" libs.client names,
    seen "tls_offload" libs.tlsOffload names⟩

theorem collects (libs : Libs) : Collects record 0 libs.places libs.draft libs where
  empty := rfl
  known := by
    simp only [places, List.forall_mem_cons, List.not_mem_nil, false_imp_iff, implies_true,
      and_true]
    refine ⟨fun names new => ?_, fun names new => ?_, fun names new => ?_⟩
    · exact Record.step_field rfl (readsForms_text "a string" libs.ecp) (seen_eq_none _ new)
        (by simp [draft, seen])
    · exact Record.step_field rfl (readsForms_optionText libs.client) (seen_eq_none _ new)
        (by simp [draft, seen])
    · exact Record.step_field rfl (readsForms_optionText libs.tlsOffload) (seen_eq_none _ new)
        (by simp [draft, seen])
  fields := rfl
  unknown name other names := by
    simp only [places, List.forall_mem_cons, name_defaultPlace, name_optionPlace] at other
    simp [draft, seen, other]
  complete names present := by
    obtain ⟨ecp, client, tlsOffload⟩ := by simpa [places] using present
    simp only [record, draft, getD_seen ecp, join_seen client, join_seen tlsOffload]

theorem readsForms (libs : Libs) : ReadsForms record.read 1 libs.Form libs :=
  libs.collects.readsForms

end Libs

/-! ## Keystores -/

namespace Software

/-- The places for the parameters. -/
def places (software : Software) : List Place :=
  [textPlace "cert_chain" software.certChain, textPlace "private_key" software.privateKey]

/-- The texts of the parameters. -/
def Form (software : Software) : Bytes → Prop := ObjectForm software.places

/-- What has been read of the parameters behind some members. -/
def draft (software : Software) (names : List String) : Draft :=
  ⟨seen "cert_chain" software.certChain names, seen "private_key" software.privateKey names⟩

theorem collects (software : Software) :
    Collects record 0 software.places software.draft software where
  empty := rfl
  known := by
    simp only [places, List.forall_mem_cons, List.not_mem_nil, false_imp_iff, implies_true,
      and_true]
    refine ⟨fun names new => ?_, fun names new => ?_⟩
    · exact Record.step_field rfl (readsForms_text "path string" software.certChain)
        (seen_eq_none _ new) (by simp [draft, seen])
    · exact Record.step_field rfl (readsForms_text "path string" software.privateKey)
        (seen_eq_none _ new) (by simp [draft, seen])
  fields := rfl
  unknown name other names := by
    simp only [places, List.forall_mem_cons, name_textPlace] at other
    simp [draft, seen, other]
  complete names present := by
    obtain ⟨certChain, privateKey⟩ := by simpa [places] using present
    simp only [record, draft, required_seen certChain, required_seen privateKey]
    rfl

theorem readsForms (software : Software) : ReadsForms record.read 1 software.Form software :=
  software.collects.readsForms

end Software

namespace Pkcs11

/-- The places for the parameters. -/
def places (token : Pkcs11) : List Place :=
  [textPlace "slot" token.slot, textPlace "label" token.label,
    defaultPlace "user_pin" token.userPin "", textPlace "module" token.modulePath]

/-- The texts of the parameters. -/
def Form (token : Pkcs11) : Bytes → Prop := ObjectForm token.places

/-- What has been read of the parameters behind some members. -/
def draft (token : Pkcs11) (names : List String) : Draft :=
  ⟨seen "slot" token.slot names, seen "label" token.label names,
    seen "user_pin" token.userPin names, seen "module" token.modulePath names⟩

theorem collects (token : Pkcs11) : Collects record 0 token.places token.draft token where
  empty := rfl
  known := by
    simp only [places, List.forall_mem_cons, List.not_mem_nil, false_imp_iff, implies_true,
      and_true]
    refine ⟨fun names new => ?_, fun names new => ?_, fun names new => ?_, fun names new => ?_⟩
    · exact Record.step_field rfl (readsForms_text "a string" token.slot) (seen_eq_none _ new)
        (by simp [draft, seen])
    · exact Record.step_field rfl (readsForms_text "a string" token.label) (seen_eq_none _ new)
        (by simp [draft, seen])
    · exact Record.step_field rfl (readsForms_text "a string" token.userPin)
        (seen_eq_none _ new) (by simp [draft, seen])
    · exact Record.step_field rfl (readsForms_text "a string" token.modulePath)
        (seen_eq_none _ new) (by simp [draft, seen])
  fields := rfl
  unknown name other names := by
    simp only [places, List.forall_mem_cons, name_textPlace, name_defaultPlace] at other
    simp [draft, seen, other]
  complete names present := by
    obtain ⟨slot, label, userPin, modulePath⟩ := by simpa [places] using present
    simp only [record, draft, required_seen slot, required_seen label, getD_seen userPin,
      required_seen modulePath]
    rfl

theorem readsForms (token : Pkcs11) : ReadsForms record.read 1 token.Form token :=
  token.collects.readsForms

end Pkcs11

namespace Keychain

/-- The places for the parameters. -/
def places (keychain : Keychain) : List Place := [textPlace "issuer" keychain.issuer]

/-- The texts of the parameters. -/
def Form (keychain : Keychain) : Bytes → Prop := ObjectForm keychain.places

theorem collects (keychain : Keychain) :
    Collects record 0 keychain.places (seen "issuer" keychain.issuer) keychain where
  empty := rfl
  known := by
    simp only [places, List.forall_mem_cons, List.not_mem_nil, false_imp_iff, implies_true,
      and_true]
    intro names new
    exact Record.step_field rfl (readsForms_text "a string" keychain.issuer) (seen_eq_none _ new)
      (by simp)
  fields := rfl
  unknown name other names := by
    simp only [places, List.forall_mem_cons, name_textPlace] at other
    simp [seen, other]
  complete names present := by
    have issuer := by simpa [places] using present
    simp only [record, required_seen issuer]
    rfl

theorem readsForms (keychain : Keychain) : ReadsForms record.read 1 keychain.Form keychain :=
  keychain.collects.readsForms

end Keychain

namespace WindowsStore

/-- The places for the parameters. -/
def places (store : WindowsStore) : List Place :=
  [textPlace "issuer" store.issuer, textPlace "store" store.store,
    textPlace "provider" store.provider]

/-- The texts of the parameters. -/
def Form (store : WindowsStore) : Bytes → Prop := ObjectForm store.places

/-- What has been read of the parameters behind some members. -/
def draft (store : WindowsStore) (names : List String) : Draft :=
  ⟨seen "issuer" store.issuer names, seen "store" store.store names,
    seen "provider" store.provider names⟩

theorem collects (store : WindowsStore) :
    Collects record 0 store.places store.draft store where
  empty := rfl
  known := by
    simp only [places, List.forall_mem_cons, List.not_mem_nil, false_imp_iff, implies_true,
      and_true]
    refine ⟨fun names new => ?_, fun names new => ?_, fun names new => ?_⟩
    · exact Record.step_field rfl (readsForms_text "a string" store.issuer) (seen_eq_none _ new)
        (by simp [draft, seen])
    · exact Record.step_field rfl (readsForms_text "a string" store.store) (seen_eq_none _ new)
        (by simp [draft, seen])
    · exact Record.step_field rfl (readsForms_text "a string" store.provider) (seen_eq_none _ new)
        (by simp [draft, seen])
  fields := rfl
  unknown name other names := by
    simp only [places, List.forall_mem_cons, name_textPlace] at other
    simp [draft, seen, other]
  complete names present := by
    obtain ⟨issuer, store, provider⟩ := by simpa [places] using present
    simp only [record, draft, required_seen issuer, required_seen store, required_seen provider]
    rfl

theorem readsForms (store : WindowsStore) : ReadsForms record.read 1 store.Form store :=
  store.collects.readsForms

end WindowsStore

namespace Keystores

/-- The places for the keystores. -/
def places (stores : Keystores) : List Place :=
  [optionPlace "software" Software.Form stores.software,
    optionPlace "pkcs11" Pkcs11.Form stores.pkcs11,
    optionPlace "macos_keychain" Keychain.Form stores.keychain,
    optionPlace "windows_store" WindowsStore.Form stores.windowsStore]

/-- The texts of the keystores. -/
def Form (stores : Keystores) : Bytes → Prop := ObjectForm stores.places

/-- What has been read of the keystores behind some members. -/
def draft (stores : Keystores) (names : List String) : Draft :=
  ⟨seen "software" stores.software names, seen "pkcs11" stores.pkcs11 names,
    seen "macos_keychain" stores.keychain names, seen "windows_store" stores.windowsStore names⟩

theorem collects (stores : Keystores) : Collects record 1 stores.places stores.draft stores where
  empty := rfl
  known := by
    simp only [places, List.forall_mem_cons, List.not_mem_nil, false_imp_iff, implies_true,
      and_true]
    refine ⟨fun names new => ?_, fun names new => ?_, fun names new => ?_, fun names new => ?_⟩
    · exact Record.step_field rfl
        (.option Software.readsForms (fun _ _ => ObjectForm.begins) stores.software)
        (seen_eq_none _ new) (by simp [draft, seen])
    · exact Record.step_field rfl
        (.option Pkcs11.readsForms (fun _ _ => ObjectForm.begins) stores.pkcs11)
        (seen_eq_none _ new) (by simp [draft, seen])
    · exact Record.step_field rfl
        (.option Keychain.readsForms (fun _ _ => ObjectForm.begins) stores.keychain)
        (seen_eq_none _ new) (by simp [draft, seen])
    · exact Record.step_field rfl
        (.option WindowsStore.readsForms (fun _ _ => ObjectForm.begins) stores.windowsStore)
        (seen_eq_none _ new) (by simp [draft, seen])
  fields := rfl
  unknown name other names := by
    simp only [places, List.forall_mem_cons, name_optionPlace] at other
    simp [draft, seen, other]
  complete names present := by
    obtain ⟨software, pkcs11, keychain, windowsStore⟩ := by simpa [places] using present
    simp only [record, draft, join_seen software, join_seen pkcs11, join_seen keychain,
      join_seen windowsStore]

theorem readsForms (stores : Keystores) : ReadsForms record.read 2 stores.Form stores :=
  stores.collects.readsForms

end Keystores

/-! ## The whole file -/

namespace Document

/-- The places for the parts of a configuration. -/
def places (document : Document) : List Place :=
  [⟨"libs", document.libs.Form, document.libs = {}⟩,
    ⟨"cert_configs", document.keystores.Form, document.keystores = {}⟩]

/-- The texts of a configuration. -/
def Form (document : Document) : Bytes → Prop := ObjectForm document.places

/-- What has been read of a configuration behind some members. -/
def draft (document : Document) (names : List String) : Draft :=
  ⟨seen "libs" document.libs names, seen "cert_configs" document.keystores names⟩

theorem collects (document : Document) :
    Collects record 2 document.places document.draft document where
  empty := rfl
  known := by
    simp only [places, List.forall_mem_cons, List.not_mem_nil, false_imp_iff, implies_true,
      and_true]
    refine ⟨fun names new => ?_, fun names new => ?_⟩
    · exact Record.step_field rfl (document.libs.readsForms.mono (by decide))
        (seen_eq_none _ new) (by simp [draft, seen])
    · exact Record.step_field rfl document.keystores.readsForms (seen_eq_none _ new)
        (by simp [draft, seen])
  fields := rfl
  unknown name other names := by
    simp only [places, List.forall_mem_cons] at other
    simp [draft, seen, other]
  complete names present := by
    obtain ⟨libs, keystores⟩ := by simpa [places] using present
    simp only [record, draft, getD_seen libs, getD_seen keystores]

theorem readsForms (document : Document) : ReadsForms record.read 3 document.Form document :=
  document.collects.readsForms

end Document

/-! ## The file that is written -/

theorem literal_pretty (s : String) (depth : Nat) : Literal s ((Value.text s).prettyAt depth) := by
  rw [Value.prettyAt]
  exact literal_quoted s

theorem suits_option {forms : α → Bytes → Prop} {toValue : α → Value} {depth : Nat}
    (form : ∀ a, forms a ((toValue a).prettyAt depth)) (name : String) (a : Option α) :
    Place.Suits depth (optionPlace name forms a, a.map toValue) := by
  cases a with
  | none => rfl
  | some a => exact form a

theorem suits_optionText (name : String) (s : Option String) (depth : Nat) :
    Place.Suits depth (optionPlace name Literal s, s.map Value.text) :=
  suits_option (fun s => literal_pretty s depth) name s

namespace Libs

/-- What is written for the places. -/
def entries (libs : Libs) : List (Place × Option Value) :=
  [(defaultPlace "ecp" libs.ecp "", some (.text libs.ecp)),
    (optionPlace "ecp_client" Literal libs.client, libs.client.map .text),
    (optionPlace "tls_offload" Literal libs.tlsOffload, libs.tlsOffload.map .text)]

theorem members_entries (libs : Libs) :
    Message.toValue libs = .object (Place.members libs.entries) := by
  obtain ⟨ecp, _ | client, _ | tlsOffload⟩ := libs <;> rfl

theorem form_pretty (libs : Libs) (depth : Nat) :
    libs.Form ((Message.toValue libs).prettyAt depth) := by
  rw [members_entries]
  refine objectForm_pretty depth libs.entries
    (show List.Nodup ["ecp", "ecp_client", "tls_offload"] by decide) ?_
  simp only [entries, List.forall_mem_cons]
  exact ⟨literal_pretty libs.ecp _, suits_optionText _ _ _, suits_optionText _ _ _, nofun⟩

end Libs

theorem Software.form_pretty (software : Software) (depth : Nat) :
    software.Form ((Message.toValue software).prettyAt depth) := by
  refine objectForm_pretty depth [
    (textPlace "cert_chain" software.certChain, some (.text software.certChain)),
    (textPlace "private_key" software.privateKey, some (.text software.privateKey))]
    (show List.Nodup ["cert_chain", "private_key"] by decide) ?_
  simp only [List.forall_mem_cons]
  exact ⟨literal_pretty _ _, literal_pretty _ _, nofun⟩

theorem Pkcs11.form_pretty (token : Pkcs11) (depth : Nat) :
    token.Form ((Message.toValue token).prettyAt depth) := by
  refine objectForm_pretty depth [(textPlace "slot" token.slot, some (.text token.slot)),
    (textPlace "label" token.label, some (.text token.label)),
    (defaultPlace "user_pin" token.userPin "", some (.text token.userPin)),
    (textPlace "module" token.modulePath, some (.text token.modulePath))]
    (show List.Nodup ["slot", "label", "user_pin", "module"] by decide) ?_
  simp only [List.forall_mem_cons]
  exact ⟨literal_pretty _ _, literal_pretty _ _, literal_pretty _ _, literal_pretty _ _, nofun⟩

theorem Keychain.form_pretty (keychain : Keychain) (depth : Nat) :
    keychain.Form ((Message.toValue keychain).prettyAt depth) := by
  refine objectForm_pretty depth
    [(textPlace "issuer" keychain.issuer, some (.text keychain.issuer))]
    (show List.Nodup ["issuer"] by decide) ?_
  simp only [List.forall_mem_cons]
  exact ⟨literal_pretty _ _, nofun⟩

theorem WindowsStore.form_pretty (store : WindowsStore) (depth : Nat) :
    store.Form ((Message.toValue store).prettyAt depth) := by
  refine objectForm_pretty depth [(textPlace "issuer" store.issuer, some (.text store.issuer)),
    (textPlace "store" store.store, some (.text store.store)),
    (textPlace "provider" store.provider, some (.text store.provider))]
    (show List.Nodup ["issuer", "store", "provider"] by decide) ?_
  simp only [List.forall_mem_cons]
  exact ⟨literal_pretty _ _, literal_pretty _ _, literal_pretty _ _, nofun⟩

namespace Keystores

/-- What is written for the places. -/
def entries (stores : Keystores) : List (Place × Option Value) :=
  [(optionPlace "software" Software.Form stores.software, stores.software.map Message.toValue),
    (optionPlace "pkcs11" Pkcs11.Form stores.pkcs11, stores.pkcs11.map Message.toValue),
    (optionPlace "macos_keychain" Keychain.Form stores.keychain,
      stores.keychain.map Message.toValue),
    (optionPlace "windows_store" WindowsStore.Form stores.windowsStore,
      stores.windowsStore.map Message.toValue)]

theorem members_entries (stores : Keystores) :
    Message.toValue stores = .object (Place.members stores.entries) := by
  obtain ⟨_ | software, _ | pkcs11, _ | keychain, _ | windowsStore⟩ := stores <;> rfl

theorem form_pretty (stores : Keystores) (depth : Nat) :
    stores.Form ((Message.toValue stores).prettyAt depth) := by
  rw [members_entries]
  refine objectForm_pretty depth stores.entries
    (show List.Nodup ["software", "pkcs11", "macos_keychain", "windows_store"] by decide) ?_
  simp only [entries, List.forall_mem_cons]
  exact ⟨suits_option (fun a => a.form_pretty _) _ _, suits_option (fun a => a.form_pretty _) _ _,
    suits_option (fun a => a.form_pretty _) _ _, suits_option (fun a => a.form_pretty _) _ _, nofun⟩

end Keystores

namespace Document

theorem form_pretty (document : Document) (depth : Nat) :
    document.Form ((Message.toValue document).prettyAt depth) := by
  refine objectForm_pretty depth [
    (⟨"libs", document.libs.Form, document.libs = {}⟩, some (Message.toValue document.libs)),
    (⟨"cert_configs", document.keystores.Form, document.keystores = {}⟩,
      some (Message.toValue document.keystores))]
    (show List.Nodup ["libs", "cert_configs"] by decide) ?_
  simp only [List.forall_mem_cons]
  exact ⟨document.libs.form_pretty _, document.keystores.form_pretty _, nofun⟩

/-- A file holds a configuration, in any of its texts and with blanks at both ends. -/
def Writes (document : Document) (octets : Bytes) : Prop :=
  ∃ before text after, octets = before ++ (text ++ after) ∧ Gap before ∧ document.Form text ∧
    Gap after

theorem writes_file (document : Document) : document.Writes document.file := by
  refine ⟨[], document.file, [], ?_, .nil, document.form_pretty 0, .nil⟩
  rw [List.nil_append, List.append_nil]

theorem decode_writes {document : Document} {octets : Bytes} (writes : document.Writes octets) :
    Message.decode Document .stream octets = .ok document := by
  obtain ⟨before, text, after, rfl, blankBefore, form, blankAfter⟩ := writes
  exact document.readsForms.decode (by decide) form blankBefore blankAfter trivial

/-- A configuration is what is read from the file that is written for it, and from every other file
that holds it. -/
theorem load_writes (document : Document) :
    document.Writes document.file ∧
      ∀ octets, document.Writes octets → ∀ (files : FileSystem) (path : Bytes),
        files path = .ok { bytes := octets } → Document.load files path = .ok document := by
  refine ⟨document.writes_file, ?_⟩
  intro octets writes files path opened
  simp only [Document.load, opened, Document.ofFile, decode_writes writes]
  rfl

/-- A configuration as a newer program may write it: an unknown member with a list comes first, and
the library that is not there is `null`. -/
def newer : Bytes :=
  Bytes.ofText "\x7b \"x\":[1e999],\"libs\":\x7b\"ecp_client\":null,\"ecp\":\"/s\"\x7d\x7d"

theorem load_newer :
    Document.Writes { libs := { ecp := "/s" } } newer ∧
      Document.load (fun _ => .ok { bytes := newer }) [] = .ok { libs := { ecp := "/s" } } := by
  have number : Numeral ([0x31] ++ ([] ++ 0x65 :: ([] ++ [0x39, 0x39, 0x39]))) :=
    .positive (.digits (by decide) rfl nofun) .none
      (.some (.inl rfl) (.inl rfl) ⟨by decide, List.all_eq_true.mp rfl⟩)
  have space : Gap [0x20] := List.all_eq_true.mp rfl
  have list : WellFormed (Bytes.ofText "[1e999]") :=
    .list (.first .nil (.number number) (.nil false .nil))
  have names : WritesMembers true [("ecp_client", Bytes.ofText "null"), ("ecp", quoted "/s")] _ :=
    .first .nil (literal_quoted _) .nil .nil
      (.next .nil .nil (literal_quoted _) .nil .nil (.nil false .nil))
  have namesAdmitted : ∀ member ∈ [("ecp_client", Bytes.ofText "null"), ("ecp", quoted "/s")],
      Admits (Libs.places { ecp := "/s" }) member := by
    rw [List.forall_mem_cons, List.forall_mem_singleton]
    exact ⟨.inl ⟨_, .tail _ (.head _), rfl, rfl⟩, .inl ⟨_, .head _, rfl, literal_quoted _⟩⟩
  have libs : Libs.Form { ecp := "/s" }
      (Bytes.ofText "\x7b\"ecp_client\":null,\"ecp\":\"/s\"\x7d") :=
    ⟨_, _, by decide, names, namesAdmitted, by decide, by simp [Libs.places]⟩
  have members : WritesMembers true [("x", Bytes.ofText "[1e999]"),
      ("libs", Bytes.ofText "\x7b\"ecp_client\":null,\"ecp\":\"/s\"\x7d")] _ :=
    .first space (literal_quoted _) .nil .nil
      (.next .nil .nil (literal_quoted _) .nil .nil (.nil false .nil))
  have admitted : ∀ member ∈ [("x", Bytes.ofText "[1e999]"),
      ("libs", Bytes.ofText "\x7b\"ecp_client\":null,\"ecp\":\"/s\"\x7d")],
      Admits (Document.places { libs := { ecp := "/s" } }) member := by
    rw [List.forall_mem_cons, List.forall_mem_singleton]
    exact ⟨.inr ⟨by decide, list⟩, .inl ⟨_, .head _, rfl, libs⟩⟩
  have writes : Document.Writes { libs := { ecp := "/s" } } newer :=
    ⟨[], newer, [], by decide, .nil,
      ⟨_, _, by decide, members, admitted, by decide, by simp [Document.places]⟩, .nil⟩
  exact ⟨writes, (load_writes _).2 newer writes _ _ rfl⟩

end Document

end RemoteSigner.Config
