/-!
# The wrapper around the user's program

The wrapper is compiled together with the user's sources. It installs the hooks of the checkers
and of the signals, and hands an error to the tools that explain it. What depends on the build is
left open as placeholders between `__DCC_` and `__`.
-/

namespace CheckedBuild.Wrapper

/-- The lines of the wrapper. -/
def templateLines : List String :=
  ["//",
   "// Runs around the user's program: installs signal and sanitizer hooks and",
   "// hands any runtime error to the post-mortem tools.",
   "//",
   "",
   "#include <stdio.h>",
   "#include <unistd.h>",
   "#include <stdlib.h>",
   "#include <assert.h>",
   "#include <string.h>",
   "#include <signal.h>",
   "#include <limits.h>",
   "#include <errno.h>",
   "#ifdef __linux__",
   "# include <sys/prctl.h>",
   "#endif",
   "",
   "#if __has_attribute(no_sanitize)",
   "# define DCC_UNCHECKED __attribute__((no_sanitize(\"address\", \"memory\", \"undefined\")))",
   "#else",
   "# define DCC_UNCHECKED",
   "#endif",
   "__DCC_EMBEDDED_ARCHIVE__",
   "static int debug = 0;",
   "",
   "void __dcc_start(void) __attribute__((constructor)) DCC_UNCHECKED;",
   "static void _dcc_exit(void) DCC_UNCHECKED;",
   "static void _signal_handler(int signum) DCC_UNCHECKED;",
   "static void setenvd(char *n, char *v) DCC_UNCHECKED;",
   "static void putenvd(char *s) DCC_UNCHECKED;",
   "static void _explain_error(void) DCC_UNCHECKED;",
   "",
   "#if !__DCC_STACK_USE_AFTER_RETURN__",
   "static void clear_stack(void) DCC_UNCHECKED;",
   "",
   "static void _memset_shim(void *p, int byte, size_t size)",
   "#if __has_attribute(noinline)",
   "__attribute__((noinline))",
   "#endif",
   "#if __has_attribute(optnone)",
   "__attribute__((optnone))",
   "#endif",
   ";",
   "#endif",
   "",
   "#undef main",
   "",
   "int __DCC_MAIN_SYMBOL__(int argc, char *argv[], char *envp[]) DCC_UNCHECKED;",
   "",
   "#if !__DCC_NO_WRAP_MAIN__",
   "#if !__DCC_SANITIZER_IS_VALGRIND__",
   "",
   "int __DCC_MAIN_SYMBOL__(int argc, char *argv[], char *envp[]) \x7b",
   "\textern int __real_main(int argc, char *argv[], char *envp[]);",
   "\tchar mypath[PATH_MAX];",
   "\trealpath(argv[0], mypath);",
   "\tsetenvd(\"DCC_BINARY\", mypath);",
   "#if !__DCC_STACK_USE_AFTER_RETURN__",
   "\tclear_stack();",
   "#endif",
   "\treturn __real_main(argc, argv, envp);",
   "\x7d",
   "",
   "#else",
   "",
   "// re-executes the program under valgrind, with valgrind's error stream",
   "// piped into the monitor",
   "int __DCC_MAIN_SYMBOL__(int argc, char *argv[], char *envp[]) \x7b",
   "\textern int __real_main(int argc, char *argv[], char *envp[]);",
   "\tchar mypath[PATH_MAX];",
   "\trealpath(argv[0], mypath);",
   "\tsetenvd(\"DCC_BINARY\", mypath);",
   "",
   "\tint valgrind_running = getenv(\"DCC_VALGRIND_RUNNING\") != NULL;",
   "\tif (debug) fprintf(stderr, \"wrapped main(valgrind_running=%d)\\n\", valgrind_running);",
   "",
   "\tif (valgrind_running) \x7b",
   "\t\t// unbuffered so uninitialized reads are reported where they happen",
   "\t\tsetbuf(stdout, NULL);",
   "\t\tsignal(SIGPIPE, SIG_DFL);",
   "#if !__DCC_STACK_USE_AFTER_RETURN__",
   "\t\tclear_stack();",
   "#endif",
   "\t\treturn __real_main(argc, argv, envp);",
   "\t\x7d",
   "",
   "\tif (debug) fprintf(stderr, \"command=%s\\n\", \"__DCC_MONITOR_VALGRIND__\");",
   "\tFILE *valgrind_error_pipe = popen(\"__DCC_MONITOR_VALGRIND__\", \"w\");",
   "\tif (!valgrind_error_pipe) \x7b",
   "\t\tif (debug) perror(\"popen failed\");",
   "#if !__DCC_STACK_USE_AFTER_RETURN__",
   "\t\tclear_stack();",
   "#endif",
   "\t\treturn __real_main(argc, argv, envp);",
   "\t\x7d",
   "#if __DCC_EMBED_SOURCE__",
   "\tfwrite(tar_data, sizeof tar_data[0], sizeof tar_data / sizeof tar_data[0], valgrind_error_pipe);",
   "#endif",
   "\tfflush(valgrind_error_pipe);",
   "\tsetbuf(valgrind_error_pipe, NULL);",
   "\tint valgrind_error_fd = (int)fileno(valgrind_error_pipe);",
   "\tsetenvd(\"DCC_VALGRIND_RUNNING\", \"1\");",
   "",
   "\tchar fd_buffer[64];",
   "\tsnprintf(fd_buffer, sizeof fd_buffer, \"--log-fd=%d\", valgrind_error_fd);",
   "\tchar *valgrind_command[] = \x7b",
   "\t\t\"/usr/bin/valgrind\",",
   "\t\tfd_buffer,",
   "\t\t\"-q\",",
   "\t\t\"--vgdb=yes\",",
   "\t\t\"--leak-check=__DCC_LEAK_CHECK_YES_NO__\",",
   "\t\t\"--suppressions=__DCC_SUPPRESSIONS_FILE__\",",
   "\t\t\"--max-stackframe=16000000\",",
   "\t\t\"--partial-loads-ok=no\",",
   "\t\t\"--malloc-fill=0xbe\",",
   "\t\t\"--free-fill=0xbe\",",
   "\t\t\"--vgdb-error=1\"",
   "\t\x7d;",
   "",
   "\tint valgrind_command_len = sizeof valgrind_command / sizeof valgrind_command[0];",
   "\tchar *valgrind_argv[valgrind_command_len + argc + 1];",
   "\tfor (int i = 0; i < valgrind_command_len; i++)",
   "\t\tvalgrind_argv[i] = valgrind_command[i];",
   "\tfor (int i = 0; i < argc; i++)",
   "\t\tvalgrind_argv[valgrind_command_len + i] = argv[i];",
   "\tvalgrind_argv[valgrind_command_len + argc] = NULL;",
   "",
   "\texecvp(\"/usr/bin/valgrind\", valgrind_argv);",
   "",
   "\tif (debug) perror(\"execvp failed\");",
   "\treturn __real_main(argc, argv, envp);",
   "\x7d",
   "",
   "#endif",
   "#endif",
   "",
   "void __dcc_start(void) \x7b",
   "\tdebug = getenv(\"DCC_DEBUG\") != NULL;",
   "\tif (debug) fprintf(stderr, \"__dcc_start\\n\");",
   "",
   "\tsetenvd(\"DCC_SANITIZER\", \"__DCC_SANITIZER__\");",
   "\tsetenvd(\"DCC_PATH\", \"__DCC_PATH__\");",
   "\tsetenvd(\"DCC_CLANG_VERSION\", \"__DCC_CLANG_VERSION_MAJOR__.__DCC_CLANG_VERSION_MINOR__\");",
   "",
   "\tchar pid_buffer[32];",
   "\tsnprintf(pid_buffer, sizeof pid_buffer, \"%d\", (int)getpid());",
   "\tsetenvd(\"DCC_PID\", pid_buffer);",
   "#if !__DCC_STACK_USE_AFTER_RETURN__",
   "\t_memset_shim(pid_buffer, 0xbe, sizeof pid_buffer);",
   "#endif",
   "",
   "\tsignal(SIGABRT, _signal_handler);",
   "\tsignal(SIGSEGV, _signal_handler);",
   "\tsignal(SIGINT, _signal_handler);",
   "\tsignal(SIGXCPU, _signal_handler);",
   "\tsignal(SIGXFSZ, _signal_handler);",
   "\tsignal(SIGFPE, _signal_handler);",
   "\tsignal(SIGILL, _signal_handler);",
   "#if __DCC_NO_WRAP_MAIN__ && !__DCC_STACK_USE_AFTER_RETURN__",
   "\tclear_stack();",
   "#endif",
   "\x7d",
   "",
   "// exit or _exit would run more sanitizer code, so the process kills itself",
   "static void _dcc_exit(void) \x7b",
   "\tif (debug) fprintf(stderr, \"_dcc_exit()\\n\");",
   "",
   "\tpid_t pid = getpid();",
   "",
   "\t// SIGPIPE is not reported by the shell",
   "\tsignal(SIGPIPE, SIG_DFL);",
   "\tkill(pid, SIGPIPE);",
   "",
   "\tsignal(SIGINT, SIG_DFL);",
   "\tkill(pid, SIGINT);",
   "",
   "\tkill(pid, SIGKILL);",
   "",
   "\t_exit(1);",
   "\x7d",
   "",
   "void __asan_on_error(void) DCC_UNCHECKED;",
   "",
   "void __asan_on_error(void) \x7b",
   "\tif (debug) fprintf(stderr, \"__asan_on_error\\n\");",
   "",
   "\tchar *report = \"\";",
   "#if __DCC_SANITIZER_IS_ADDRESS__ && __DCC_CLANG_VERSION_MAJOR__ >= 6",
   "\textern char *__asan_get_report_description();",
   "\textern int __asan_report_present();",
   "\tif (__asan_report_present()) \x7b",
   "\t\treport = __asan_get_report_description();",
   "\t\x7d",
   "#endif",
   "\tchar report_description[8192];",
   "\tsnprintf(report_description, sizeof report_description, \"DCC_ASAN_ERROR=%s\", report);",
   "\tputenvd(report_description);",
   "",
   "\t_explain_error();",
   "\x7d",
   "",
   "// detect_stack_use_after_return=1 also stops clear_stack filling frames",
   "char *__asan_default_options(void) \x7b",
   "\treturn \"verbosity=0:print_stacktrace=1:halt_on_error=1:detect_leaks=__DCC_LEAK_CHECK_1_0__:max_malloc_fill_size=4096000:quarantine_size_mb=16:verify_asan_link_order=0:detect_stack_use_after_return=__DCC_STACK_USE_AFTER_RETURN__\";",
   "\x7d",
   "",
   "char *__msan_default_options(void) \x7b",
   "\treturn \"verbosity=0:print_stacktrace=1:halt_on_error=1:detect_leaks=__DCC_LEAK_CHECK_1_0__\";",
   "\x7d",
   "",
   "void __ubsan_on_report(void) \x7b",
   "\tif (debug) fprintf(stderr, \"__ubsan_on_report\\n\");",
   "",
   "#if __DCC_CLANG_VERSION_MAJOR__ >= 7 && !__DCC_SANITIZER_IS_MEMORY__",
   "\tchar *OutIssueKind;",
   "\tchar *OutMessage;",
   "\tchar *OutFilename;",
   "\tunsigned int OutLine;",
   "\tunsigned int OutCol;",
   "\tchar *OutMemoryAddr;",
   "\textern void __ubsan_get_current_report_data(char **OutIssueKind, char **OutMessage, char **OutFilename, unsigned int *OutLine, unsigned int *OutCol, char **OutMemoryAddr);",
   "",
   "\t__ubsan_get_current_report_data(&OutIssueKind, &OutMessage, &OutFilename, &OutLine, &OutCol, &OutMemoryAddr);",
   "",
   "\tstatic char buffer[6][128];",
   "\tsnprintf(buffer[0], sizeof buffer[0], \"DCC_UBSAN_ERROR_KIND=%s\", OutIssueKind);",
   "\tsnprintf(buffer[1], sizeof buffer[1], \"DCC_UBSAN_ERROR_MESSAGE=%s\", OutMessage);",
   "\tsnprintf(buffer[2], sizeof buffer[2], \"DCC_UBSAN_ERROR_FILENAME=%s\", OutFilename);",
   "\tsnprintf(buffer[3], sizeof buffer[3], \"DCC_UBSAN_ERROR_LINE=%u\", OutLine);",
   "\tsnprintf(buffer[4], sizeof buffer[4], \"DCC_UBSAN_ERROR_COL=%u\", OutCol);",
   "\tsnprintf(buffer[5], sizeof buffer[5], \"DCC_UBSAN_ERROR_MEMORYADDR=%s\", OutMemoryAddr);",
   "\tfor (int i = 0; i < sizeof buffer / sizeof buffer[0]; i++)",
   "\t\tputenv(buffer[i]);",
   "#endif",
   "\t_explain_error();",
   "\x7d",
   "",
   "void _Unwind_Backtrace(void *a, ...) \x7b",
   "\tif (debug) fprintf(stderr, \"_Unwind_Backtrace\\n\");",
   "\t_explain_error();",
   "\x7d",
   "",
   "char *__ubsan_default_options(void) \x7b",
   "\treturn \"verbosity=0:print_stacktrace=1:halt_on_error=1:detect_leaks=__DCC_LEAK_CHECK_1_0__\";",
   "\x7d",
   "",
   "static void _signal_handler(int signum) \x7b",
   "\tsignal(SIGABRT, SIG_IGN);",
   "\tsignal(SIGSEGV, SIG_IGN);",
   "\tsignal(SIGINT, SIG_IGN);",
   "\tsignal(SIGXCPU, SIG_IGN);",
   "\tsignal(SIGXFSZ, SIG_IGN);",
   "\tsignal(SIGFPE, SIG_IGN);",
   "\tsignal(SIGILL, SIG_IGN);",
   "",
   "\tstatic char signum_buffer[64];",
   "\tsnprintf(signum_buffer, sizeof signum_buffer, \"DCC_SIGNAL=%d\", (int)signum);",
   "\tputenvd(signum_buffer);",
   "",
   "\t_explain_error();",
   "\x7d",
   "",
   "#if __DCC_EMBED_SOURCE__",
   "static char *run_tar_file = \"python3 -E -c \\\"import os,sys,tarfile,tempfile\\n\\",
   "with tempfile.TemporaryDirectory() as temp_dir:\\n\\",
   "    tarfile.open(fileobj=sys.stdin.buffer, mode='r|gz').extractall(temp_dir)\\n\\",
   "    os.chdir(temp_dir)\\n\\",
   "    exec(open('start_gdb.py').read())\\n\\",
   "\\\"\";",
   "#endif",
   "",
   "static void _explain_error(void) \x7b",
   "\t// the program may have run out of descriptors; the debugger needs some",
   "\tfor (int i = 4; i < 32; i++)",
   "\t\tclose(i);",
   "",
   "#ifdef __linux__",
   "\t// let gdb attach under Yama ptrace restrictions",
   "\tprctl(PR_SET_PTRACER, PR_SET_PTRACER_ANY);",
   "#endif",
   "",
   "#if !__DCC_EMBED_SOURCE__",
   "\tif (debug) fprintf(stderr, \"running %s\\n\", \"__DCC_PATH__\");",
   "\tsystem(\"__DCC_PATH__\");",
   "#else",
   "\tif (debug) fprintf(stderr, \"running %s\\n\", run_tar_file);",
   "\tFILE *python_pipe = popen(run_tar_file, \"w\");",
   "\tif (python_pipe) \x7b",
   "\t\tfwrite(tar_data, sizeof tar_data[0], sizeof tar_data / sizeof tar_data[0], python_pipe);",
   "\t\tpclose(python_pipe);",
   "\t\x7d",
   "#endif",
   "\t_dcc_exit();",
   "\x7d",
   "",
   "#if !__DCC_STACK_USE_AFTER_RETURN__",
   "",
   "// fill most of the stack with 0xbe so uninitialized locals stand out",
   "static void clear_stack(void) \x7b",
   "\tchar a[4096000];",
   "\t_memset_shim(a, 0xbe, sizeof a);",
   "\tif (debug) fprintf(stderr, \"initialized %p to %p\\n\", a, a + sizeof a);",
   "\x7d",
   "",
   "static void _memset_shim(void *p, int byte, size_t size) \x7b",
   "\tmemset(p, byte, size);",
   "\x7d",
   "#endif",
   "",
   "static void setenvd(char *n, char *v) \x7b",
   "\tsetenv(n, v, 1);",
   "\tif (debug) fprintf(stderr, \"setenv %s=%s\\n\", n, v);",
   "\x7d",
   "",
   "static void putenvd(char *s) \x7b",
   "\tputenv(s);",
   "\tif (debug) fprintf(stderr, \"putenv %s\\n\", s);",
   "\x7d"]

/-- The text of the wrapper, each line ended by a line feed. -/
def template : String := String.join (templateLines.map (· ++ "\n"))

end CheckedBuild.Wrapper
