import WebSsh2.Values

namespace WebSsh2.Config

structure Algorithms where
  cipher : List JsString
  kex : List JsString
  hmac : List JsString
  compress : List JsString
  serverHostKey : List JsString

namespace Algorithms

def modern : Algorithms where
  cipher := [js "aes256-gcm@openssh.com", js "aes128-gcm@openssh.com", js "aes256-ctr",
    js "aes128-ctr"]
  kex := [js "ecdh-sha2-nistp256", js "ecdh-sha2-nistp384", js "ecdh-sha2-nistp521"]
  hmac := [js "hmac-sha2-256", js "hmac-sha2-512"]
  compress := [js "none", js "zlib@openssh.com"]
  serverHostKey := [js "ecdsa-sha2-nistp256", js "ecdsa-sha2-nistp384", js "ecdsa-sha2-nistp521",
    js "ssh-rsa"]

def legacy : Algorithms where
  cipher := [js "aes256-cbc", js "aes192-cbc", js "aes128-cbc", js "3des-cbc"]
  kex := [js "diffie-hellman-group14-sha1", js "diffie-hellman-group1-sha1"]
  hmac := [js "hmac-sha1", js "hmac-md5"]
  compress := [js "none", js "zlib"]
  serverHostKey := [js "ssh-rsa", js "ssh-dss"]

def strict : Algorithms where
  cipher := [js "aes256-gcm@openssh.com"]
  kex := [js "ecdh-sha2-nistp256"]
  hmac := [js "hmac-sha2-256"]
  compress := [js "none"]
  serverHostKey := [js "ecdsa-sha2-nistp256"]

end Algorithms

-- `ALGORITHM_PRESETS`
def algorithmPresets : List (JsString × Algorithms) :=
  [(js "modern", .modern), (js "legacy", .legacy), (js "strict", .strict)]

end WebSsh2.Config
