import Troubleshooter.Library.Checks
import Troubleshooter.Platform.Capabilities

namespace Troubleshooter.Platform.ChatPlatform

open Troubleshooter.Library
open Troubleshooter.Python (strip orElse truthy)

structure Config where
  verificationToken : String
  encryptKey : String
  allowedChatIDs : List String

structure ChatEvent where
  challenge : String := ""
  token : String := ""
  chatID : String := ""
  threadID : String := ""
  messageID : String := ""
  reporterUserID : String := ""
  text : String := ""
  imageKeys : List String := []
  ocrText : String := ""

-- A ChatPlatformError with its status code, or an exception of another class.
inductive ParseError where
  | chatPlatform (message : String) (statusCode : Nat)
  | other (message : String)

-- The decoders and the cipher that the parser calls; jsonLoads and b64decode fail with the
-- text of what they raise.
structure Host where
  python : Python.Runtime
  decodeUTF8 : List UInt8 → Except String String
  encodeUTF8 : String → List UInt8
  jsonLoads : String → Except String Value
  b64decode : String → Except String (List UInt8)
  sha256 : List UInt8 → List UInt8
  decryptCBC : (key iv ciphertext : List UInt8) → List UInt8

def refuse {α : Type} (message : String) (statusCode : Nat := 400) : Except ParseError α :=
  .error (.chatPlatform message statusCode)

def pkcs7Unpad (value : List UInt8) (blockSize : Nat) : Except ParseError (List UInt8) :=
  match value.getLast? with
  | none => refuse "invalid encrypted event padding length"
  | some last =>
    let padding := last.toNat
    if value.length % blockSize ≠ 0 then refuse "invalid encrypted event padding length"
    else if padding = 0 ∨ blockSize < padding ∨ value.length < padding then
      refuse "invalid encrypted event padding"
    else if value.drop (value.length - padding) ≠ List.replicate padding last then
      refuse "invalid encrypted event padding"
    else .ok (value.take (value.length - padding))

-- The bytes that the body of an event is limited to.
def maxBodyBytes : Nat := 1024 * 1024

def tooLarge : String := "chat platform event body exceeds 1MiB"

namespace Host

variable (host : Host)

def decryptEvent (encryptKey encrypted : String) : Except ParseError (List UInt8) :=
  match host.b64decode encrypted with
  | .error raised => refuse ("decode encrypted event failed: " ++ raised)
  | .ok ciphertext =>
    if ciphertext = [] ∨ ciphertext.length % 16 ≠ 0 then refuse "invalid encrypted event block size"
    else
      let key := host.sha256 (host.encodeUTF8 encryptKey)
      pkcs7Unpad (host.decryptCBC key (key.take 16) ciphertext) 16

-- json.loads(body.decode("utf-8") or "{}"), which has to be an object.
def loadObject (body : List UInt8) (invalid notObject : String) : Except ParseError Dict :=
  match host.decodeUTF8 body with
  | .error raised => .error (.other raised)
  | .ok text =>
    match host.jsonLoads (if text = "" then "\x7b\x7d" else text) with
    | .error raised => refuse (invalid ++ raised)
    | .ok (.map entries) => .ok entries
    | .ok _ => refuse notObject

def decodeEventPayload (rawBody : List UInt8) (encryptKey : String) : Except ParseError Dict := do
  if maxBodyBytes < rawBody.length then refuse tooLarge
  else
    let envelope ← host.loadObject rawBody "invalid chat platform json: "
      "chat platform payload must be a json object"
    let encrypted := textOf host.python [get envelope "encrypt"]
    if encrypted = "" then
      if encryptKey ≠ "" then
        refuse "LARK_ENCRYPT_KEY is configured but event body is not encrypted"
      else .ok envelope
    else if encryptKey = "" then
      refuse "encrypted chat platform event received but LARK_ENCRYPT_KEY is not configured"
    else
      let plaintext ← host.decryptEvent encryptKey encrypted
      host.loadObject plaintext "decrypted chat platform json is invalid: "
        "decrypted chat platform payload must be a json object"

def loadsJSONOrNone (text : String) : Value :=
  match host.jsonLoads text with
  | .ok value => value
  | .error _ => .null

def extractText (content : String) : String :=
  let content := strip content
  if content = "" then ""
  else
    match host.loadsJSONOrNone content with
    | .map entries =>
      match get entries "text" with
      | .str text => text
      | _ => content
    | _ => content

mutual

def walkImageKeys : Value → List String
  | .map entries => walkEntries entries
  | .list items => walkItems items
  | .str value => if value.startsWith "img_" then [value] else []
  | _ => []

def walkEntries : List (String × Value) → List String
  | [] => []
  | (key, .str child) :: rest =>
    (if host.python.lower key ∈ ["image_key", "imagekey"] then [child]
      else if child.startsWith "img_" then [child] else []) ++ walkEntries rest
  | (_, child) :: rest => walkImageKeys child ++ walkEntries rest

def walkItems : List Value → List String
  | [] => []
  | child :: rest => walkImageKeys child ++ walkItems rest

end

def extractImageKeys (content : String) : List String :=
  host.walkImageKeys (host.loadsJSONOrNone content)

def boundedFrom (maxImages : Nat) : List String → List String → List String
  | [], out => out
  | raw :: rest, out =>
    let value := strip raw
    if value = "" ∨ value ∈ out then boundedFrom maxImages rest out
    else if maxImages ≤ out.length + 1 then out ++ [value]
    else boundedFrom maxImages rest (out ++ [value])

def boundedImageKeys (values : Value) : List String :=
  match values with
  | .list items => boundedFrom 20 (items.map (Python.str host.python)) []
  | _ => []

def text (dict : Dict) (keys : List String) : String := textOf host.python (keys.map (get dict))

-- The shapes of a payload, in the order in which they are looked for.
inductive Shape where
  | challenge
  | flat
  | nested
deriving DecidableEq

def shapeOf (payload : Dict) : Shape :=
  if truthy (get payload "challenge") then .challenge
  else if ["chat_id", "text", "image_keys"].any fun key => truthy (get payload key) then .flat
  else .nested

def flatEvent (payload : Dict) : ChatEvent where
  token := host.text payload ["token"]
  chatID := host.text payload ["chat_id"]
  threadID := host.text payload ["thread_id"]
  messageID := host.text payload ["message_id"]
  reporterUserID := host.text payload ["user_id", "reporter_user_id"]
  text := host.text payload ["text"]
  imageKeys := host.boundedImageKeys (orElse (get payload "image_keys") (.list []))
  ocrText := host.text payload ["ocr_text"]

def nestedEvent (payload : Dict) : ChatEvent :=
  let header := asDict (get payload "header")
  let event := asDict (get payload "event")
  let message := asDict (get event "message")
  let senderID := asDict (get (asDict (get event "sender")) "sender_id")
  let content := host.text message ["content"]
  { token := textOf host.python [get header "token", get payload "token"]
    chatID := host.text message ["chat_id"]
    threadID := host.text message ["thread_id", "root_id"]
    messageID := textOf host.python [get message "message_id", get header "event_id"]
    reporterUserID := host.text senderID ["open_id", "user_id"]
    text := host.extractText content
    imageKeys := host.boundedImageKeys (.list ((host.extractImageKeys content).map .str)) }

def extractEvent (payload : Dict) : Except ParseError ChatEvent :=
  match shapeOf payload with
  | .challenge =>
    .ok { challenge := host.text payload ["challenge"], token := host.text payload ["token"] }
  | .flat => .ok (host.flatEvent payload)
  | .nested =>
    let extracted := host.nestedEvent payload
    if extracted.chatID = "" ∧ extracted.messageID = "" ∧ extracted.text = "" ∧
        extracted.imageKeys = [] then
      refuse "unsupported lark/feishu event payload"
    else .ok extracted

end Host

-- hmac.compare_digest takes texts of ASCII characters only.
def verifyToken (actual expected : String) : Except ParseError Unit :=
  if expected = "" then .ok ()
  else if ¬((actual ++ expected).toList.all fun letter => decide (letter.toNat < 128)) then
    .error (.other "comparing strings with non-ASCII characters is not supported")
  else if actual ≠ expected then refuse "invalid lark/feishu verification token" 401
  else .ok ()

def verifyAllowedChat (chatID : String) (allowedChatIDs : List String) : Except ParseError Unit :=
  if allowedChatIDs = [] then .ok ()
  else if chatID = "" ∨ chatID ∉ allowedChatIDs then refuse "chat is not allowed" 403
  else .ok ()

def parseChatEvent (host : Host) (config : Config) (rawBody : List UInt8) :
    Except ParseError ChatEvent := do
  let payload ← host.decodeEventPayload rawBody config.encryptKey
  let event ← host.extractEvent payload
  verifyToken event.token config.verificationToken
  if event.challenge ≠ "" then return event
  else
    verifyAllowedChat event.chatID config.allowedChatIDs
    return event

namespace Host

variable (host : Host)

-- The body was an envelope with something encrypted in it, and what the key makes of that
-- is the payload.
def Sealed (encryptKey : String) (rawBody : List UInt8) (payload : Dict) : Prop :=
  ∃ envelope plaintext,
    host.loadObject rawBody "invalid chat platform json: "
      "chat platform payload must be a json object" = .ok envelope ∧
    textOf host.python [get envelope "encrypt"] ≠ "" ∧
    host.decryptEvent encryptKey (textOf host.python [get envelope "encrypt"]) = .ok plaintext ∧
    host.loadObject plaintext "decrypted chat platform json is invalid: "
      "decrypted chat platform payload must be a json object" = .ok payload

theorem decodeEventPayload_sealed {rawBody : List UInt8} {encryptKey : String} {payload : Dict}
    (hpayload : host.decodeEventPayload rawBody encryptKey = .ok payload)
    (hkey : encryptKey ≠ "") : host.Sealed encryptKey rawBody payload := by
  simp only [decodeEventPayload, refuse, Checks.refuse_eq_ok, Checks.bind_eq_ok] at hpayload
  obtain ⟨-, envelope, henvelope, hpayload⟩ := hpayload
  by_cases hencrypted : textOf host.python [get envelope "encrypt"] = ""
  · rw [if_pos hencrypted, if_pos hkey] at hpayload
    cases hpayload
  · rw [if_neg hencrypted, if_neg hkey] at hpayload
    obtain ⟨plaintext, hplaintext, hpayload⟩ := Checks.bind_eq_ok.mp hpayload
    exact ⟨envelope, plaintext, henvelope, hencrypted, hplaintext, hpayload⟩

-- Where each shape carries the token.
def carriedToken (payload : Dict) : String :=
  match shapeOf payload with
  | .challenge | .flat => host.text payload ["token"]
  | .nested =>
    textOf host.python [get (asDict (get payload "header")) "token", get payload "token"]

-- Where each shape carries the chat id; a challenge comes from no chat.
def carriedChatID (payload : Dict) : String :=
  match shapeOf payload with
  | .challenge => ""
  | .flat => host.text payload ["chat_id"]
  | .nested => host.text (asDict (get (asDict (get payload "event")) "message")) ["chat_id"]

-- What an event holds of its payload, whatever its shape.
theorem extractEvent_carried {payload : Dict} {event : ChatEvent}
    (hevent : host.extractEvent payload = .ok event) :
    event.token = host.carriedToken payload ∧ event.chatID = host.carriedChatID payload ∧
      (shapeOf payload ≠ .challenge → event.challenge = "") := by
  unfold extractEvent at hevent
  unfold carriedToken carriedChatID
  cases hshape : shapeOf payload with
  | challenge =>
    rw [hshape] at hevent
    cases hevent
    exact ⟨rfl, rfl, fun habsurd => absurd rfl habsurd⟩
  | flat =>
    rw [hshape] at hevent
    cases hevent
    exact ⟨rfl, rfl, fun _ => rfl⟩
  | nested =>
    simp only [hshape, refuse, Checks.refuse_eq_ok] at hevent
    cases hevent.2
    exact ⟨rfl, rfl, fun _ => rfl⟩

end Host

theorem verifyToken_eq {actual expected : String} (hverified : verifyToken actual expected = .ok ())
    (hexpected : expected ≠ "") : actual = expected := by
  simp only [verifyToken, if_neg hexpected, refuse, Checks.refuse_eq_ok] at hverified
  exact Decidable.of_not_not hverified.2.1

theorem verifyAllowedChat_mem {chatID : String} {allowedChatIDs : List String}
    (hverified : verifyAllowedChat chatID allowedChatIDs = .ok ()) (hlist : allowedChatIDs ≠ []) :
    chatID ∈ allowedChatIDs := by
  simp only [verifyAllowedChat, if_neg hlist, refuse, Checks.refuse_eq_ok] at hverified
  by_contra hout
  exact hverified.1 (.inr hout)

-- What has been checked of an event that was made of a payload.
structure Admitted (host : Host) (config : Config) (rawBody : List UInt8) (payload : Dict)
    (event : ChatEvent) : Prop where
  decoded : host.decodeEventPayload rawBody config.encryptKey = .ok payload
  extracted : host.extractEvent payload = .ok event
  opened : config.encryptKey ≠ "" → host.Sealed config.encryptKey rawBody payload
  carried : event.token = host.carriedToken payload ∧ event.chatID = host.carriedChatID payload
  trusted : config.verificationToken ≠ "" → event.token = config.verificationToken
  invited : config.allowedChatIDs ≠ [] → event.challenge = "" →
    event.chatID ∈ config.allowedChatIDs
  challenged : event.challenge ≠ "" → Host.shapeOf payload = .challenge

-- An event comes back only once the body has been opened, the token verified and the chat
-- looked up.
theorem parseChatEvent_admitted (host : Host) (config : Config) (rawBody : List UInt8)
    (event : ChatEvent) (hevent : parseChatEvent host config rawBody = .ok event) :
    ∃ payload, Admitted host config rawBody payload event := by
  obtain ⟨payload, hpayload, hevent⟩ := Checks.bind_eq_ok.mp hevent
  obtain ⟨extracted, hextracted, hevent⟩ := Checks.bind_eq_ok.mp hevent
  obtain ⟨_, htoken, hevent⟩ := Checks.bind_eq_ok.mp hevent
  obtain ⟨hcarriedToken, hcarriedChat, hchallenge⟩ := host.extractEvent_carried hextracted
  -- a challenge is returned before the chat is looked up
  have hreturned : extracted = event ∧ (event.challenge = "" →
      verifyAllowedChat event.chatID config.allowedChatIDs = .ok ()) := by
    by_cases hempty : extracted.challenge = ""
    · rw [if_neg (not_not_intro hempty)] at hevent
      obtain ⟨_, hchat, hsame⟩ := Checks.bind_eq_ok.mp hevent
      cases hsame
      exact ⟨rfl, fun _ => hchat⟩
    · rw [if_pos hempty] at hevent
      cases hevent
      exact ⟨rfl, fun habsurd => absurd habsurd hempty⟩
  obtain ⟨rfl, hchat⟩ := hreturned
  exact ⟨payload, {
    decoded := hpayload
    extracted := hextracted
    opened := host.decodeEventPayload_sealed hpayload
    carried := ⟨hcarriedToken, hcarriedChat⟩
    trusted := verifyToken_eq htoken
    invited := fun hlist hempty => verifyAllowedChat_mem (hchat hempty) hlist
    challenged := fun hfull => by_contra fun hshape => hfull (hchallenge hshape) }⟩

namespace Sample

def asciiBytes (text : String) : List UInt8 :=
  text.toList.map fun letter => UInt8.ofNat letter.toNat

def encryptKey : String := "k"

def digest : List UInt8 :=
  [130, 84, 195, 41, 169, 40, 80, 246, 213, 57, 221, 55, 111, 72, 22, 238,
   39, 100, 81, 125, 165, 224, 35, 85, 20, 175, 67, 49, 100, 72, 13, 122]

def ciphertext : List UInt8 :=
  [103, 43, 50, 51, 147, 235, 128, 20, 48, 228, 14, 4, 23, 7, 194, 78,
   227, 82, 175, 39, 83, 91, 249, 87, 132, 139, 169, 220, 172, 100, 113, 98]

def encrypted : String := "ZysyM5PrgBQw5A4EFwfCTuNSrydTW/lXhIup3KxkcWI="

def plaintext : String := "\x7b\"chat_id\":\"oc_a\",\"token\":\"t\"\x7d"

def body : String := "\x7b\"encrypt\":\"" ++ encrypted ++ "\"\x7d"

-- What SHA-256, AES-256 in CBC mode, base64 and JSON give on one encrypted body.
def host : Host where
  python := .ascii
  decodeUTF8 bytes := .ok (String.ofList (bytes.map fun byte => Char.ofNat byte.toNat))
  encodeUTF8 := asciiBytes
  jsonLoads text :=
    if text = body then .ok (.map [("encrypt", .str encrypted)])
    else if text = plaintext then .ok (.map [("chat_id", .str "oc_a"), ("token", .str "t")])
    else .error "Expecting value: line 1 column 1 (char 0)"
  b64decode text := if text = encrypted then .ok ciphertext else .error "Incorrect padding"
  sha256 bytes := if bytes = asciiBytes encryptKey then digest else []
  decryptCBC key iv bytes :=
    if key = digest ∧ iv = digest.take 16 ∧ bytes = ciphertext then asciiBytes plaintext ++ [2, 2]
    else bytes

def config : Config where
  verificationToken := "t"
  encryptKey := encryptKey
  allowedChatIDs := ["oc_a"]

def event : ChatEvent where
  token := "t"
  chatID := "oc_a"

end Sample

theorem parseChatEvent_admitted_sealed :
    parseChatEvent Sample.host Sample.config (Sample.asciiBytes Sample.body) = .ok Sample.event ∧
    ∃ payload, Admitted Sample.host Sample.config (Sample.asciiBytes Sample.body) payload
      Sample.event := by
  have hevent : parseChatEvent Sample.host Sample.config (Sample.asciiBytes Sample.body)
      = .ok Sample.event := by rfl
  exact ⟨hevent, parseChatEvent_admitted _ _ _ _ hevent⟩

end Troubleshooter.Platform.ChatPlatform
