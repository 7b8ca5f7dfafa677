import ModuleHints.Catalog.Candidate

/-!
# Modules of the runtime

The modules that every program may require, each with one line about it, in alphabetical order.
-/

namespace ModuleHints

/-- Names and descriptions of the runtime's modules. -/
def builtinModules : List (String × String) :=
  [("assert", "Writes unit tests against invariants of your program."),
   ("buffer", "Raw binary data handling through the Buffer class."),
   ("child_process", "Spawns child processes and communicates over their stdio."),
   ("cluster", "Runs a cluster of Node processes sharing server ports."),
   ("console", "A simple debugging console similar to the browser's."),
   ("constants", "Operating system constants (deprecated, use os.constants)."),
   ("crypto", "Cryptographic hashes, HMACs, ciphers, signatures and key exchange."),
   ("dgram", "UDP datagram sockets."),
   ("dns", "Name resolution through the operating system or DNS servers."),
   ("domain", "Handles multiple I/O operations as a single group (deprecated)."),
   ("events", "The EventEmitter class used by most of the Node API."),
   ("fs", "File system access modelled on standard POSIX functions."),
   ("http", "HTTP server and client."),
   ("https", "HTTP over TLS/SSL."),
   ("module", "The module system and its loader."),
   ("net", "Asynchronous stream-based TCP and IPC servers and clients."),
   ("os", "Operating system related utility functions."),
   ("path", "Utilities for handling and transforming file paths."),
   ("punycode", "Punycode encoding of Unicode domain names (deprecated)."),
   ("querystring", "Parsing and formatting of URL query strings."),
   ("readline", "Reads a stream, such as stdin, one line at a time."),
   ("repl", "A Read-Eval-Print-Loop usable standalone or inside other programs."),
   ("stream", "The abstract interface implemented by streaming objects."),
   ("string_decoder", "Decodes Buffer objects into strings preserving multibyte characters."),
   ("sys", "Deprecated alias of the util module."),
   ("timers", "Schedules functions to be called at some future time."),
   ("tls", "Transport Layer Security and Secure Socket Layer over OpenSSL."),
   ("tty", "Classes used by the terminal when stdio is a TTY."),
   ("url", "URL resolution and parsing."),
   ("util", "Utility functions for the runtime's internal APIs and debugging."),
   ("v8", "APIs specific to the V8 engine built into the runtime."),
   ("vm", "Compiles and runs code within V8 virtual machine contexts."),
   ("zlib", "Compression and decompression with Gzip, Deflate and Brotli.")]

/-- A candidate for every module of the runtime. -/
def builtinCandidates : List Candidate :=
  builtinModules.map fun m => ⟨m.1, m.2, .builtin⟩

end ModuleHints
