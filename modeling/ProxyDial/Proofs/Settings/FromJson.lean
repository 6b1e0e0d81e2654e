import ProxyDial.Proofs.Json.Object
import ProxyDial.Settings

set_option autoImplicit false

/-! Settings as they may be written. Each of the three records has its own rule for what may be left
out: credentials need both of their parts, TLS settings and settings have a value for each place. -/

namespace ProxyDial
open Json

/-! ### The places of the records -/

def Credentials.slots : List (Slot Credentials) :=
  [⟨"username", Credentials.username, WritesString, none⟩,
    ⟨"password", Credentials.password, WritesString, none⟩]

def TlsSettings.slots : List (Slot TlsSettings) :=
  [⟨"ca_cert", TlsSettings.authority, WritesString, some ""⟩,
    ⟨"client_cert", TlsSettings.certificate, WritesOptional WritesString, some none⟩,
    ⟨"client_key", TlsSettings.key, WritesOptional WritesString, some none⟩,
    ⟨"skip_host_verification", TlsSettings.skipHostVerification, WritesFlag, some false⟩]

def Settings.slots : List (Slot Settings) :=
  [⟨"host", Settings.host, WritesOptional WritesString, some none⟩,
    ⟨"system_auth_keyspace", Settings.authKeyspace, WritesOptional WritesString, some none⟩,
    ⟨"auth_login_userpass", Settings.login, WritesOptional (WritesObject Credentials.slots),
      some none⟩,
    ⟨"proxy_url", Settings.proxy, WritesOptional WritesString, some none⟩,
    ⟨"dns_nameserver", Settings.nameserver, WritesOptional WritesString, some none⟩,
    ⟨"tls", Settings.tls, WritesOptional (WritesObject TlsSettings.slots), some none⟩,
    ⟨"connect_timeout_secs", Settings.timeoutSeconds, WritesOptional WritesNatural, some none⟩]

/-- A text that writes settings: an object with blanks around it. -/
inductive Settings.WritesJson (settings : Settings) : String → Prop
  | spaced {before object behind : List Char} (front : Blank before)
      (writes : WritesObject Settings.slots settings object) (back : Blank behind) :
      WritesJson settings (String.ofList (before ++ (object ++ behind)))

/-! ### The records have these places -/

/-- Optional texts are read back. -/
theorem readOptionalText_writes :
    ReadsBack (readOptional readText) (WritesOptional WritesString) :=
  readOptional_writes readText_writes shows_string

theorem Credentials.describes : Describes slots recordType where
  fields := by
    constructor
    · exact .of readText_writes (fun _ _ => rfl) (by simp [slots])
    constructor
    · exact .of readText_writes (fun _ _ => rfl) (by simp [slots])
    constructor
  distinct := by decide
  named := by decide
  whole := by
    intro first second same
    cases first
    cases second
    simpa [slots] using same
  fallback := by simp [slots]
  required := by simp [slots]

theorem TlsSettings.describes : Describes slots recordType where
  fields := by
    constructor
    · exact .of readText_writes (fun _ _ => rfl) (by simp [slots])
    constructor
    · exact .of readOptionalText_writes (fun _ _ => rfl) (by simp [slots])
    constructor
    · exact .of readOptionalText_writes (fun _ _ => rfl) (by simp [slots])
    constructor
    · exact .of readFlag_writes (fun _ _ => rfl) (by simp [slots])
    constructor
  distinct := by decide
  named := by decide
  whole := by
    intro first second same
    cases first
    cases second
    simpa [slots] using same
  fallback := by
    simp [slots, recordType, empty]
  required := by
    simp [recordType]

theorem Settings.describes : Describes slots recordType where
  fields := by
    have login := readOptional_writes Credentials.describes.read_writes
      (shows_object Credentials.slots)
    have tls := readOptional_writes TlsSettings.describes.read_writes
      (shows_object TlsSettings.slots)
    have seconds := readOptional_writes readNatural_writes shows_natural
    constructor
    · exact .of readOptionalText_writes (fun _ _ => rfl) (by simp [slots])
    constructor
    · exact .of readOptionalText_writes (fun _ _ => rfl) (by simp [slots])
    constructor
    · exact .of login (fun _ _ => rfl) (by simp [slots])
    constructor
    · exact .of readOptionalText_writes (fun _ _ => rfl) (by simp [slots])
    constructor
    · exact .of readOptionalText_writes (fun _ _ => rfl) (by simp [slots])
    constructor
    · exact .of tls (fun _ _ => rfl) (by simp [slots])
    constructor
    · exact .of seconds (fun _ _ => rfl) (by simp [slots])
    constructor
  distinct := by decide
  named := by decide
  whole := by
    intro first second same
    cases first
    cases second
    simpa [slots] using same
  fallback := by
    simp [slots, recordType, empty]
  required := by
    simp [recordType]

/-! ### Settings are read -/

theorem Credentials.exists_writesObject (login : Credentials) :
    ∃ text, WritesObject slots login text := by
  apply describes.exists_writesObject
  simp only [slots, List.forall_mem_cons]
  exact ⟨exists_writesString _, exists_writesString _, nofun⟩

theorem TlsSettings.exists_writesObject (settings : TlsSettings) :
    ∃ text, WritesObject slots settings text := by
  have flag : ∃ text, WritesFlag settings.skipHostVerification text := by
    cases settings.skipHostVerification with
    | true => exact ⟨_, rfl⟩
    | false => exact ⟨_, rfl⟩
  apply describes.exists_writesObject
  simp only [slots, List.forall_mem_cons]
  exact ⟨exists_writesString _, exists_writesOptional fun text _ => exists_writesString text,
    exists_writesOptional fun text _ => exists_writesString text, flag, nofun⟩

/-- All settings have a text, if their timeout fits a word of 64 bits. -/
theorem Settings.exists_writesJson {settings : Settings}
    (fits : ∀ seconds, settings.timeoutSeconds = some seconds → seconds < UInt64.size) :
    ∃ text, settings.WritesJson text := by
  have text (value : Option String) : ∃ text, WritesOptional WritesString value text :=
    exists_writesOptional fun inner _ => exists_writesString inner
  have login : ∃ text, WritesOptional (WritesObject Credentials.slots) settings.login text :=
    exists_writesOptional fun inner _ => inner.exists_writesObject
  have tls : ∃ text, WritesOptional (WritesObject TlsSettings.slots) settings.tls text :=
    exists_writesOptional fun inner _ => inner.exists_writesObject
  have seconds : ∃ text, WritesOptional WritesNatural settings.timeoutSeconds text :=
    exists_writesOptional fun inner same => ⟨_, writesNatural_decimalDigits (fits inner same)⟩
  have object : ∃ text, WritesObject slots settings text := by
    apply describes.exists_writesObject
    simp only [slots, List.forall_mem_cons]
    exact ⟨text _, text _, login, text _, text _, tls, seconds, nofun⟩
  obtain ⟨object, writes⟩ := object
  exact ⟨_, .spaced Blank.nil writes Blank.nil⟩

/-- Whatever text writes settings, exactly these settings are read from it. -/
theorem Settings.ofJson_writesJson {settings : Settings} {text : String}
    (writes : settings.WritesJson text) : ofJson text = .ok settings := by
  cases writes with
  | spaced front object back =>
      have read := Settings.describes.ofText_writes front object back
      unfold ofJson
      rw [read]

/-! ### An instance -/

namespace Settings.Sample

def settings : Settings :=
  { empty with
    host := some "db.🔑"
    tls := some ⟨"PEM\n", none, none, false⟩
    timeoutSeconds := some 18446744073709551615 }

def text : String :=
  "\x7b \"host\" : \"db\\u002E\\ud83d\\uDD11\", \"more\": [1, \x7b\"a\":-2.5e+3\x7d],\n" ++
    "\"tls\":\x7b\"client_cert\":null,\"ca_cert\":\"PEM\\n\"\x7d," ++
    "\"connect_timeout_secs\":18446744073709551615\x7d"

/-- The host is written with escapes, the last of them a pair. -/
theorem writes_host : WritesMember slots settings ["host"]
    " \"host\" : \"db\\u002E\\ud83d\\uDD11\"".toList := by
  have d : WritesChar 'd' ['d'] := .plain rfl
  have b : WritesChar 'b' ['b'] := .plain rfl
  have dot : WritesChar '.' ['\\', 'u', '0', '0', '2', 'E'] := .unit (by decide)
  have high : WritesUnit 0xd83d ['d', '8', '3', 'd'] := by decide
  have low : WritesUnit 0xdd11 ['D', 'D', '1', '1'] := by decide
  have key : WritesChar '🔑' _ := .pair (by decide) high low
  have named : WritesString "host" _ := .plain rfl
  have value : WritesString "db.🔑" _ := .quoted (.cons d (.cons b (.cons dot (.cons key .nil))))
  have entry : WritesEntry slots settings ["host"] "host" _ := .listed (.head _) value
  have space : Blank [' '] := .single (by decide)
  exact .spaced named entry ⟨space, space, space, .nil⟩

theorem writes_unknown : WritesMember slots settings []
    " \"more\": [1, \x7b\"a\":-2.5e+3\x7d]".toList := by
  have digits {c : Char} (digit : c.isDigit = true) : WritesDigits [c] :=
    ⟨List.cons_ne_nil c [], by simp [digit]⟩
  have fraction : WritesFraction ['.', '5'] := .present (digits rfl)
  have exponent : WritesExponent ['e', '+', '3'] :=
    @WritesExponent.present 'e' ['+'] ['3'] (by decide) (by decide) (digits rfl)
  have number : WritesPart .value ['-', '2', '.', '5', 'e', '+', '3'] :=
    .scalar (.negative (.parts (writesWhole_digit rfl) fraction exponent))
  have one : WritesPart .value ['1'] :=
    .scalar (.positive (.parts (writesWhole_digit rfl) .absent .absent))
  have a : LegalChars ['a'] := .cons (.plain rfl) .nil
  have object : WritesPart .value _ := .filled (.last (.key .nil a .nil) .nil number .nil)
  have space : Blank [' '] := .single (by decide)
  have behind : WritesPart (.inside .list) _ := .last .entry space object .nil
  have list : WritesPart .value _ := .filled (.more .entry .nil one .nil behind)
  have named : WritesString "more" _ := .plain rfl
  have entry : WritesEntry slots settings [] "more" _ := .unknown (by decide) list
  exact .spaced named entry ⟨space, .nil, space, .nil⟩

theorem writes_tls : WritesMember slots settings ["tls"]
    "\n\"tls\":\x7b\"client_cert\":null,\"ca_cert\":\"PEM\\n\"\x7d".toList := by
  let tls : TlsSettings := ⟨"PEM\n", none, none, false⟩
  have p : WritesChar 'P' ['P'] := .plain rfl
  have e : WritesChar 'E' ['E'] := .plain rfl
  have m : WritesChar 'M' ['M'] := .plain rfl
  have feed : WritesChar '\n' ['\\', 'n'] := .short (by decide)
  have value : WritesString "PEM\n" _ := .quoted (.cons p (.cons e (.cons m (.cons feed .nil))))
  have authority : WritesEntry TlsSettings.slots tls ["ca_cert"] "ca_cert" _ :=
    .listed (.head _) value
  have certificate : WritesEntry TlsSettings.slots tls ["client_cert"] "client_cert" _ :=
    .listed (.tail _ (.head _)) rfl
  have members : WritesMembers TlsSettings.slots tls ["client_cert", "ca_cert"] _ :=
    .more (.spaced (.plain rfl) certificate ⟨.nil, .nil, .nil, .nil⟩)
      (.last (.spaced (.plain rfl) authority ⟨.nil, .nil, .nil, .nil⟩))
  have omitted : Omits TlsSettings.slots tls ["client_cert", "ca_cert"] := by
    simp [Omits, TlsSettings.slots, tls]
  have object : WritesObject TlsSettings.slots tls _ := .filled members (by decide) omitted
  have named : WritesString "tls" _ := .plain rfl
  have entry : WritesEntry slots settings ["tls"] "tls" _ :=
    .listed (.tail _ (.tail _ (.tail _ (.tail _ (.tail _ (.head _)))))) object
  have line : Blank ['\n'] := .single (by decide)
  exact .spaced named entry ⟨line, .nil, .nil, .nil⟩

theorem writes_seconds : WritesMember slots settings ["connect_timeout_secs"]
    "\"connect_timeout_secs\":18446744073709551615".toList := by
  have value : WritesNatural 18446744073709551615 "18446744073709551615".toList :=
    ⟨.positive rfl (by decide) rfl, by decide, by decide⟩
  have named : WritesString "connect_timeout_secs" _ := .plain rfl
  have entry : WritesEntry slots settings ["connect_timeout_secs"] "connect_timeout_secs" _ :=
    .listed (.tail _ (.tail _ (.tail _ (.tail _ (.tail _ (.tail _ (.head _))))))) value
  exact .spaced named entry ⟨.nil, .nil, .nil, .nil⟩

set_option maxRecDepth 4000 in
theorem writes_text : settings.WritesJson text := by
  have members : WritesMembers slots settings ["host", "tls", "connect_timeout_secs"] _ :=
    .more writes_host (.more writes_unknown (.more writes_tls (.last writes_seconds)))
  have omitted : Omits slots settings ["host", "tls", "connect_timeout_secs"] := by
    simp [Omits, slots, settings, empty]
  have object : WritesObject slots settings _ := .filled members (by decide) omitted
  exact .spaced .nil object .nil

theorem text_is_read : ofJson text = .ok settings := ofJson_writesJson writes_text

end Settings.Sample

end ProxyDial
