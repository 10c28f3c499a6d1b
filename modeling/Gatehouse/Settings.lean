import Gatehouse.Authority
import Gatehouse.Proxy.Client
import Gatehouse.Settings.Environment

namespace Gatehouse

open Json (Value Decoder Fields Flaw)
open Settings (Scalars)

def CookieSettings.decoder (s : Scalars) : Decoder CookieSettings :=
  ((((Fields.withDefault "name" s.text "portcullis-session").and
    (.withDefault "domain" s.text.option none)).and
    (.withDefault "secure" s.flag true)).map
    fun ((name, domain), secure) ↦ CookieSettings.mk name domain secure).record
    "struct CookieConfig"

structure AuthoritySettings where
  databaseUrl : String
  migrates : Bool := false
  maxConnections : Nat := 5
  /-- Without a password nobody can call as root. -/
  rootPassword : Option String := none
  tokenKey : String
  baseUrl : String
  listenAddress : String := "0.0.0.0:4000"
  cookie : CookieSettings := {}
  deriving DecidableEq, Repr

namespace AuthoritySettings

def decoder (s : Scalars) : Decoder AuthoritySettings :=
  (((((((((Fields.required "database_url" s.text).and
    (.withDefault "run_migrations" s.flag false)).and
    (.withDefault "max_connections" (s.natural 4294967296 "u32") 5)).and
    (.withDefault "root_password" s.text.option none)).and
    (.required "token_key" s.text)).and
    (.required "base_url" s.text)).and
    (.withDefault "listen_addr" s.text "0.0.0.0:4000")).and
    (.withDefault "cookie" (CookieSettings.decoder s) {})).map
    fun (((((((databaseUrl, migrates), maxConnections), rootPassword), tokenKey), baseUrl),
        listenAddress), cookie) ↦
      AuthoritySettings.mk databaseUrl migrates maxConnections rootPassword tokenKey baseUrl
        listenAddress cookie).record "struct ServerConfig"

def ofEnvironment (environment : List (String × String)) : Except Flaw AuthoritySettings :=
  (decoder .lenient).ofValue (Settings.ofEnvironment environment)

def ofJson (v : Value) : Except Flaw AuthoritySettings := (decoder .strict).ofValue v

def key (s : AuthoritySettings) : Except TokenError TokenKey := TokenKey.ofText s.tokenKey

def links (s : AuthoritySettings) : Except BaseError Links := Links.ofText s.baseUrl

def guard (s : AuthoritySettings) : Guard where
  rootPassword := s.rootPassword
  cookieName := s.cookie.name

end AuthoritySettings

structure ProxySettings where
  serverUrl : String
  usernameHeader : Option String := none
  listenAddress : String := "0.0.0.0:4001"
  pathStart : String := ""
  checkTimeout : Nat := 1000
  requestTimeout : Nat := 250
  deriving DecidableEq, Repr

namespace ProxySettings

def decoder (s : Scalars) : Decoder ProxySettings :=
  (((((((Fields.required "server_url" s.text).and
    (.withDefault "plaintext_username_header" s.text.option none)).and
    (.withDefault "listen_addr" s.text "0.0.0.0:4001")).and
    (.withDefault "path_prefix" s.text "")).and
    (.withDefault "check_timeout_ms" (s.natural 18446744073709551616 "u64") 1000)).and
    (.withDefault "request_timeout_ms" (s.natural 18446744073709551616 "u64") 250)).map
    fun (((((serverUrl, usernameHeader), listenAddress), pathStart), checkTimeout),
        requestTimeout) ↦
      ProxySettings.mk serverUrl usernameHeader listenAddress pathStart checkTimeout
        requestTimeout).record "struct ProxyConfig"

def ofEnvironment (environment : List (String × String)) : Except Flaw ProxySettings :=
  (decoder .lenient).ofValue (Settings.ofEnvironment environment)

def ofJson (v : Value) : Except Flaw ProxySettings := (decoder .strict).ofValue v

def endpoint (s : ProxySettings) : Except BaseError Url := Client.endpoint s.serverUrl

end ProxySettings

end Gatehouse
